import Mathlib

/-! Reading a keyed collection page after page, each page from the last key received. What is
readable may change between the calls; nothing is read twice, and what stays readable is read. -/

namespace Realtime

variable {α κ : Type*} [LinearOrder κ] {key : α → κ}

/-- Fetches until a page is empty; `none` when a call fails or the fuel is used up. -/
def readPages (key : α → κ) (fetch : ℕ → κ → Option (List α)) : ℕ → ℕ → κ → Option (List α)
  | 0, _, _ => none
  | fuel + 1, call, after =>
    match fetch call after with
    | none => none
    | some page =>
      match page.getLast? with
      | none => some []
      | some last => (readPages key fetch fuel (call + 1) (key last)).map (page ++ ·)

/-- The first items behind the cursor; only the end of the collection is an empty page. -/
structure IsPage (key : α → κ) (items : List α) (after : κ) (page : List α) : Prop where
  isPrefix : page <+: items.filter (fun a => after < key a)
  nonempty : page = [] → items.filter (fun a => after < key a) = []

namespace IsPage

variable {items page : List α} {after : κ}

theorem mem (h : IsPage key items after page) {a : α} (ha : a ∈ page) :
    a ∈ items ∧ after < key a := by
  simpa using h.isPrefix.subset ha

theorem sorted (h : IsPage key items after page)
    (hite : items.Pairwise (fun a b => key a < key b)) :
    page.Pairwise (fun a b => key a < key b) :=
  (hite.filter _).sublist h.isPrefix.sublist

theorem le_last (h : IsPage key items after page)
    (hite : items.Pairwise (fun a b => key a < key b)) {last : α}
    (hla : page.getLast? = some last) {a : α} (ha : a ∈ page) : key a ≤ key last := by
  obtain ⟨front, rfl⟩ := List.getLast?_eq_some_iff.mp hla
  rw [List.mem_append, List.mem_singleton] at ha
  rcases ha with ha | rfl
  · have hso := List.pairwise_append.mp (h.sorted hite)
    exact le_of_lt (hso.2.2 a ha last (by simp))
  · exact le_refl _

/-- A page has no gaps. -/
theorem mem_of_le_last (h : IsPage key items after page)
    (hite : items.Pairwise (fun a b => key a < key b)) {last : α}
    (hla : page.getLast? = some last) {a : α} (ha : a ∈ items) (haf : after < key a)
    (hle : key a ≤ key last) : a ∈ page := by
  obtain ⟨rest, hre⟩ := h.isPrefix
  have hmem : a ∈ page ++ rest := by
    rw [hre]
    simpa using ⟨ha, haf⟩
  rcases List.mem_append.mp hmem with hpa | hbe
  · exact hpa
  · have hso := hite.filter (fun a => after < key a)
    rw [← hre, List.pairwise_append] at hso
    have hlt := hso.2.2 last (List.mem_of_getLast? hla) a hbe
    exact absurd hlt (not_lt_of_ge hle)

end IsPage

theorem filter_length_lt {rows : List α} {after : κ} {last : α} (hla : last ∈ rows)
    (haf : after < key last) :
    (rows.filter (fun a => key last < key a)).length <
      (rows.filter (fun a => after < key a)).length := by
  have hsub : (rows.filter (fun a => key last < key a)).Sublist
      (rows.filter (fun a => after < key a)) := by
    apply List.monotone_filter_right
    intro a ha
    simp only [decide_eq_true_eq] at ha ⊢
    exact haf.trans ha
  apply Nat.lt_of_le_of_ne hsub.length_le
  intro heq
  have hmem : last ∈ rows.filter (fun a => key last < key a) := by
    rw [hsub.eq_of_length heq]
    simpa using ⟨hla, haf⟩
  simp at hmem

section

variable {fetch : ℕ → κ → Option (List α)} {view : ℕ → List α} {rows : List α} {good : κ → Prop}

/-- Reading ends, and what it returned is in order and complete. -/
theorem readPages_spec (hso : ∀ i, (view i).Pairwise (fun a b => key a < key b))
    (hro : ∀ i, ∀ a ∈ view i, a ∈ rows) (hgo : ∀ a ∈ rows, good (key a))
    (hfe : ∀ i after, good after →
      ∃ page, fetch i after = some page ∧ IsPage key (view i) after page)
    {fuel call : ℕ} {after : κ} (haf : good after)
    (hfu : (rows.filter (fun a => after < key a)).length < fuel) :
    ∃ received, readPages key fetch fuel call after = some received ∧
      received.Pairwise (fun a b => key a < key b) ∧
      (∀ a ∈ received, after < key a ∧ ∃ i, a ∈ view i) ∧
      ∀ a, (∀ i < call + fuel, a ∈ view i) → after < key a → a ∈ received := by
  induction fuel generalizing call after with
  | zero => omega
  | succ fuel ih =>
    obtain ⟨page, hpa, hp⟩ := hfe call after haf
    rw [readPages, hpa]
    cases hla : page.getLast? with
    | none =>
      have hnil := List.getLast?_eq_none_iff.mp hla
      refine ⟨[], by simp [hla], List.Pairwise.nil, by simp, fun a ha hlt => ?_⟩
      have hmem : a ∈ (view call).filter (fun a => after < key a) := by
        simpa using ⟨ha call (by omega), hlt⟩
      rw [hp.nonempty hnil] at hmem
      cases hmem
    | some last =>
      have hlas := hp.mem (List.mem_of_getLast? hla)
      have hlastr := hro call last hlas.1
      have hsh := filter_length_lt hlastr hlas.2
      obtain ⟨rest, hre, hrs, hrm, hrc⟩ :=
        @ih (call + 1) (key last) (hgo last hlastr) (by omega)
      refine ⟨page ++ rest, by simp [hla, hre], ?_, ?_, ?_⟩
      · rw [List.pairwise_append]
        refine ⟨hp.sorted (hso call), hrs, fun a ha b hb => ?_⟩
        exact lt_of_le_of_lt (hp.le_last (hso call) hla ha) (hrm b hb).1
      · intro a ha
        rcases List.mem_append.mp ha with hin | hin
        · exact ⟨(hp.mem hin).2, call, (hp.mem hin).1⟩
        · exact ⟨hlas.2.trans (hrm a hin).1, (hrm a hin).2⟩
      · intro a ha hlt
        by_cases hle : key a ≤ key last
        · exact List.mem_append_left _
            (hp.mem_of_le_last (hso call) hla (ha call (by omega)) hlt hle)
        · exact List.mem_append_right _
            (hrc a (fun i hi => ha i (by omega)) (lt_of_not_ge hle))

end

end Realtime
