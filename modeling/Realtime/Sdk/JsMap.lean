import Mathlib

/-! A `Map` of ECMAScript: its entries in the order in which their keys were first set. -/

namespace Realtime.Sdk

abbrev JsMap (κ β : Type) := List (κ × β)

namespace JsMap

variable {κ β γ : Type} [DecidableEq κ]

def get (m : JsMap κ β) (k : κ) : Option β := (m.find? (fun e => e.1 = k)).map Prod.snd

def has (m : JsMap κ β) (k : κ) : Bool := m.any (fun e => e.1 = k)

/-- A key that is set again keeps its place. -/
def set (m : JsMap κ β) (k : κ) (b : β) : JsMap κ β :=
  if m.has k then m.map (fun e => if e.1 = k then (k, b) else e) else m ++ [(k, b)]

def delete (m : JsMap κ β) (k : κ) : JsMap κ β := m.filter (fun e => e.1 ≠ k)

def keys (m : JsMap κ β) : List κ := m.map Prod.fst

theorem has_map (f : β → γ) (m : JsMap κ β) (k : κ) :
    has (m.map (Prod.map id f)) k = has m k := by
  unfold has
  rw [List.any_map]
  rfl

theorem set_map (f : β → γ) (m : JsMap κ β) (k : κ) (b : β) :
    set (m.map (Prod.map id f)) k (f b) = (set m k b).map (Prod.map id f) := by
  unfold set
  rw [has_map]
  by_cases h : has m k = true
  · rw [if_pos h, if_pos h, List.map_map, List.map_map]
    apply List.map_congr_left
    intro e _
    by_cases hk : e.1 = k <;> simp [hk]
  · rw [if_neg h, if_neg h, List.map_append, List.map_singleton]
    rfl

end JsMap

end Realtime.Sdk
