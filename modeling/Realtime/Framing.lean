import Mathlib

/-! Frames in a sequence that arrives in chunks. A framer takes the first frame off a
sequence as soon as the sequence has all of it, so what it finds does not depend on where
the chunks are cut. -/

namespace Realtime

structure Framer (α β : Type*) where
  next : List α → Option (β × List α)
  shorter : ∀ {xs b rest}, next xs = some (b, rest) → rest.length < xs.length
  append : ∀ {xs b rest} ys, next xs = some (b, rest) → next (xs ++ ys) = some (b, rest ++ ys)

namespace Framer

variable {α β : Type*} (f : Framer α β)

def frames (xs : List α) : List β × List α :=
  match h : f.next xs with
  | none => ([], xs)
  | some (b, rest) =>
    have := f.shorter h
    (b :: (frames rest).1, (frames rest).2)
termination_by xs.length

variable {f} {xs rest : List α} {b : β}

theorem frames_of_none (h : f.next xs = none) : f.frames xs = ([], xs) := by
  rw [frames]
  split
  · rfl
  · next he =>
    rw [h] at he
    cases he

theorem frames_of_some (h : f.next xs = some (b, rest)) :
    f.frames xs = (b :: (f.frames rest).1, (f.frames rest).2) := by
  rw [frames]
  split
  · next he =>
    rw [h] at he
    cases he
  · next he =>
    rw [h] at he
    cases he
    rfl

/-- The frames of a longer sequence are those found so far and those of the rest. -/
theorem frames_append (xs ys : List α) :
    f.frames (xs ++ ys) = ((f.frames xs).1 ++ (f.frames ((f.frames xs).2 ++ ys)).1,
      (f.frames ((f.frames xs).2 ++ ys)).2) := by
  induction hn : xs.length using Nat.strongRecOn generalizing xs with
  | _ n ih =>
    cases hx : f.next xs with
    | none =>
      rw [frames_of_none hx]
      rfl
    | some found =>
      obtain ⟨b, rest⟩ := found
      have hlt := f.shorter hx
      have hre := ih rest.length (hn ▸ hlt) rest rfl
      rw [frames_of_some hx, frames_of_some (f.append ys hx), hre]
      rfl

/-- A frame is not there before its last element is. -/
theorem next_of_cut {last : List α} (h : f.next (xs ++ last) = some (b, []))
    (hla : last ≠ []) : f.next xs = none := by
  cases hx : f.next xs with
  | none => rfl
  | some found =>
    obtain ⟨b', rest⟩ := found
    rw [f.append last hx, Option.some.injEq, Prod.mk.injEq] at h
    exact absurd (List.append_eq_nil_iff.mp h.2).2 hla

section Encoding

variable {γ : Type*} {encode : γ → List α} {frame : γ → β}

def complete (encode : γ → List α) : List γ → Nat → List γ
  | [], _ => []
  | c :: cs, n =>
    if (encode c).length ≤ n then c :: complete encode cs (n - (encode c).length) else []

theorem complete_sublist (cs : List γ) (n : Nat) : (complete encode cs n).Sublist cs := by
  induction cs generalizing n with
  | nil => exact List.Sublist.refl _
  | cons c cs ih =>
    unfold complete
    split
    · exact (ih _).cons_cons c
    · exact List.nil_sublist _

/-- Of a prefix of encodings, exactly the complete ones are found. -/
theorem frames_of_isPrefix {received : List α} {cs : List γ}
    (hen : ∀ c ∈ cs, ∀ rest, f.next (encode c ++ rest) = some (frame c, rest))
    (hnil : f.next [] = none) (h : received <+: cs.flatMap encode) :
    (f.frames received).1 = (complete encode cs received.length).map frame := by
  induction cs generalizing received with
  | nil =>
    have hem : received = [] := by simpa using h
    rw [hem, frames_of_none hnil]
    rfl
  | cons c cs ih =>
    rw [List.flatMap_cons] at h
    have hc := hen c List.mem_cons_self
    by_cases hle : (encode c).length ≤ received.length
    · obtain ⟨rest, rfl⟩ : encode c <+: received :=
        List.prefix_of_prefix_length_le (List.prefix_append _ _) h hle
      have hre := (List.prefix_append_right_inj (encode c)).mp h
      rw [frames_of_some (hc rest),
        ih (fun c hm => hen c (List.mem_cons_of_mem _ hm)) hre]
      simp [complete]
    · obtain ⟨last, hla⟩ : received <+: encode c :=
        List.prefix_of_prefix_length_le h (List.prefix_append _ _) (by omega)
      have hne : last ≠ [] := by
        rintro rfl
        rw [List.append_nil] at hla
        rw [hla] at hle
        omega
      have hwh : f.next (received ++ last) = some (frame c, []) := by
        rw [hla]
        simpa using hc []
      rw [frames_of_none (next_of_cut hwh hne), complete, if_neg hle]
      rfl

end Encoding

end Framer

end Realtime
