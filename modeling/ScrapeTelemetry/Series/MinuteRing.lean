import ScrapeTelemetry.KeyMap

/-!
# Rings of minutes

A ring has a fixed number of slots, and a minute goes into the slot of its
remainder. A newer minute takes the slot from an older one, never the reverse.
-/

set_option autoImplicit false

namespace ScrapeTelemetry

structure MinuteRing (β : Type) where
  capacity : Nat
  positive : 0 < capacity
  slots : KeyMap Nat (Int × β)

namespace MinuteRing

variable {β : Type}

def ofCapacity (capacity : Nat) : MinuteRing β := ⟨max capacity 1, by omega, .empty⟩

def slotOf (r : MinuteRing β) (minute : Int) : Nat := (minute % r.capacity).toNat

def write (r : MinuteRing β) (minute : Int) (point : β) : MinuteRing β :=
  { r with
    slots := r.slots.upsert (r.slotOf minute) fun held? =>
      match held? with
      | some held => if minute < held.1 then held else (minute, point)
      | none => (minute, point) }

def window (r : MinuteRing β) (now : Int) : List (Int × β) :=
  let held := r.slots.toList.map Prod.snd
  let shown := held.filter fun e => now - r.capacity < e.1 && e.1 ≤ now
  shown.mergeSort fun a b => a.1 ≤ b.1

end MinuteRing
end ScrapeTelemetry
