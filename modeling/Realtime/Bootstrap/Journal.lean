import Realtime.Bootstrap.Layout

/-! The manifests as a journal of the bootstrap layout. Every artifact is at its legacy path
or at its organized one, and one that was moved is listed by a manifest that was not
restored. -/

namespace Realtime.Bootstrap

/-! The moves of an inventory. -/

def Move.IsLegacy (move : Move) : Prop :=
  ∃ environment name, classifyLegacyBootstrapArtifact name = some environment ∧
    move = legacyMove environment name

section

variable {m m' : Move}

theorem Move.IsLegacy.source_ne_destination (h : m.IsLegacy) (h' : m'.IsLegacy) :
    m.source ≠ m'.destination := by
  obtain ⟨environment, name, -, rfl⟩ := h
  obtain ⟨environment', name', -, rfl⟩ := h'
  simp [legacyMove, environmentRoot]

theorem Move.IsLegacy.eq_of_source (h : m.IsLegacy) (h' : m'.IsLegacy)
    (he : m.source = m'.source) : m = m' := by
  obtain ⟨environment, name, hc, rfl⟩ := h
  obtain ⟨environment', name', hc', rfl⟩ := h'
  have hna : name = name' := by simpa [legacyMove] using he
  subst hna
  rw [hc, Option.some.injEq] at hc'
  rw [hc']

theorem Move.IsLegacy.eq_of_destination (h : m.IsLegacy) (h' : m'.IsLegacy)
    (he : m.destination = m'.destination) : m = m' := by
  obtain ⟨environment, name, hc, rfl⟩ := h
  obtain ⟨environment', name', hc', rfl⟩ := h'
  simp only [legacyMove, environmentRoot, List.cons_append, List.nil_append, List.cons.injEq,
    and_true, true_and] at he
  rw [he.1, he.2]

variable {start name environment : Text}

theorem environmentGroup_start (h : environmentGroup start name = some environment) :
    start.isPrefixOf name = true := by
  unfold environmentGroup at h
  split at h
  · assumption
  · cases h

theorem classify_start (h : classifyLegacyBootstrapArtifact name = some environment) :
    ∃ start ∈ dotStarts ++ hyphenStarts, start.isPrefixOf name = true := by
  unfold classifyLegacyBootstrapArtifact at h
  rw [Option.filter_eq_some_iff, Option.or_eq_some_iff] at h
  rcases h.1 with h | ⟨-, h⟩
  · obtain ⟨start, hmem, hst⟩ := List.exists_of_findSome?_eq_some h
    exact ⟨start, List.mem_append_left _ hmem, environmentGroup_start hst⟩
  · obtain ⟨start, hmem, hst⟩ := List.exists_of_findSome?_eq_some h
    exact ⟨start, List.mem_append_right _ hmem, environmentGroup_start hst⟩

theorem first_of_start (hs : start ∈ dotStarts ++ hyphenStarts)
    (h : start.isPrefixOf name = true) :
    ∃ c rest, name = c :: rest ∧ c ≠ codeUnit '.' ∧ c ≠ slash := by
  have hall : (dotStarts ++ hyphenStarts).all
      (fun start => start.head?.any (fun c => c != codeUnit '.' && c != slash)) = true := by
    decide +kernel
  have hhe := List.all_eq_true.mp hall start hs
  obtain ⟨rest, rfl⟩ := List.isPrefixOf_iff_prefix.mp h
  cases start with
  | nil => cases hhe
  | cons c start => exact ⟨c, start ++ rest, rfl, by simpa using hhe⟩

theorem Move.IsLegacy.inside (h : m.IsLegacy) :
    isPathInside [] m.source = true ∧ isPathInside [] m.destination = true := by
  obtain ⟨environment, name, hc, rfl⟩ := h
  obtain ⟨start, hs, hst⟩ := classify_start hc
  obtain ⟨c, rest, rfl, hdot, hsl⟩ := first_of_start hs hst
  constructor
  · have hup : (utf16 "..").isPrefixOf (c :: rest) = false :=
      Bool.eq_false_iff.mpr (fun hp => hdot (List.cons_prefix_cons.mp
        (List.isPrefixOf_iff_prefix.mp hp)).1.symm)
    simp [isPathInside, legacyMove, relativePath, Path.text, hup, hsl]
  · rfl

end

/-! Files between two layouts. -/

section

variable {α : Type} {files before : Files α} {m m' : Move}

structure Move.Eligible (before : Files α) (m : Move) : Prop where
  legacy : m.IsLegacy
  source : (before m.source).isSome = true
  destination : before m.destination = none

/-- Every eligible artifact is at one of its two paths, and all other files are as before. -/
structure Relocated (before files : Files α) : Prop where
  moved : ∀ m, Move.Eligible before m →
    (files m.source = before m.source ∧ files m.destination = none) ∨
      (files m.source = none ∧ files m.destination = before m.source)
  kept : ∀ path, (∀ m, Move.Eligible before m → path ≠ m.source ∧ path ≠ m.destination) →
    files path = before path

theorem Relocated.refl (before : Files α) : Relocated before before :=
  ⟨fun _ hm => .inl ⟨rfl, hm.destination⟩, fun _ _ => rfl⟩

theorem rename_destination (files : Files α) (source destination : Path) :
    files.rename source destination destination = files source :=
  Function.update_self _ _ _

variable {source destination : Path}

theorem rename_source (files : Files α) (h : source ≠ destination) :
    files.rename source destination source = none := by
  unfold Files.rename
  rw [Function.update_of_ne h, Function.update_self]

theorem rename_other (files : Files α) {source destination path : Path} (hs : path ≠ source)
    (hd : path ≠ destination) : files.rename source destination path = files path := by
  unfold Files.rename
  rw [Function.update_of_ne hd, Function.update_of_ne hs]

theorem Move.Eligible.apart (h : m.Eligible before) (h' : m'.Eligible before) (hne : m' ≠ m) :
    m'.source ≠ m.source ∧ m'.source ≠ m.destination ∧ m'.destination ≠ m.source ∧
      m'.destination ≠ m.destination := by
  refine ⟨?_, h'.legacy.source_ne_destination h.legacy,
    (h.legacy.source_ne_destination h'.legacy).symm, ?_⟩
  · exact fun he => hne (h'.legacy.eq_of_source h.legacy he)
  · exact fun he => hne (h'.legacy.eq_of_destination h.legacy he)

theorem Relocated.at_source (h : Relocated before files) (hm : m.Eligible before)
    (hs : (files m.source).isSome = true) :
    files m.source = before m.source ∧ files m.destination = none := by
  rcases h.moved m hm with h | ⟨hno, -⟩
  · exact h
  · rw [hno] at hs
    cases hs

theorem Relocated.at_destination (h : Relocated before files) (hm : m.Eligible before)
    (hd : (files m.destination).isSome = true) :
    files m.source = none ∧ files m.destination = before m.source := by
  rcases h.moved m hm with ⟨-, hno⟩ | h
  · rw [hno] at hd
    cases hd
  · exact h

theorem Relocated.isSome_eq (h : Relocated before files) (hm : m.Eligible before) :
    (files m.source).isSome = !(files m.destination).isSome := by
  have hs := hm.source
  rcases h.moved m hm with ⟨h1, h2⟩ | ⟨h1, h2⟩ <;> simp [h1, h2, hs]

theorem Relocated.organize (h : Relocated before files) (hm : m.Eligible before)
    (hs : (files m.source).isSome = true) :
    Relocated before (files.rename m.source m.destination) := by
  have hne := hm.legacy.source_ne_destination hm.legacy
  refine ⟨?_, ?_⟩
  · intro m' hm'
    by_cases he : m' = m
    · subst he
      exact .inr ⟨rename_source files hne,
        (rename_destination files _ _).trans (h.at_source hm hs).1⟩
    · obtain ⟨h1, h2, h3, h4⟩ := hm.apart hm' he
      rw [rename_other files h1 h2, rename_other files h3 h4]
      exact h.moved m' hm'
  · intro path hpa
    rw [rename_other files (hpa m hm).1 (hpa m hm).2]
    exact h.kept path hpa

theorem Relocated.restore (h : Relocated before files) (hm : m.Eligible before)
    (hd : (files m.destination).isSome = true) :
    Relocated before (files.rename m.destination m.source) := by
  have hne := (hm.legacy.source_ne_destination hm.legacy).symm
  refine ⟨?_, ?_⟩
  · intro m' hm'
    by_cases he : m' = m
    · subst he
      exact .inl ⟨(rename_destination files _ _).trans (h.at_destination hm hd).2,
        rename_source files hne⟩
    · obtain ⟨h1, h2, h3, h4⟩ := hm.apart hm' he
      rw [rename_other files h2 h1, rename_other files h4 h3]
      exact h.moved m' hm'
  · intro path hpa
    rw [rename_other files (hpa m hm).2 (hpa m hm).1]
    exact h.kept path hpa

theorem Relocated.eligible (h : Relocated before files) (hm : m.IsLegacy)
    (hs : (files m.source).isSome = true) (hd : files m.destination = none) :
    m.Eligible before := by
  by_contra hnot
  -- then neither path belongs to an eligible artifact
  have hfr (path : Path) (hp : path = m.source ∨ path = m.destination) (m' : Move)
      (hm' : m'.Eligible before) : path ≠ m'.source ∧ path ≠ m'.destination := by
    have hne : m ≠ m' := by
      rintro rfl
      exact hnot hm'
    rcases hp with rfl | rfl
    · exact ⟨fun he => hne (hm.eq_of_source hm'.legacy he),
        hm.source_ne_destination hm'.legacy⟩
    · exact ⟨(hm'.legacy.source_ne_destination hm).symm,
        fun he => hne (hm.eq_of_destination hm'.legacy he)⟩
  refine hnot ⟨hm, ?_, ?_⟩
  · rw [← h.kept m.source (hfr _ (.inl rfl))]
    exact hs
  · rw [← h.kept m.destination (hfr _ (.inr rfl))]
    exact hd

theorem Relocated.eq (h : Relocated before files)
    (hno : ∀ m, Move.Eligible before m → files m.destination = none) : files = before := by
  funext path
  by_cases hp : ∃ m, Move.Eligible before m ∧ (path = m.source ∨ path = m.destination)
  · obtain ⟨m, hm, hp⟩ := hp
    have hat := (h.at_source hm (by rw [h.isSome_eq hm, hno m hm]; rfl)).1
    rcases hp with rfl | rfl
    · exact hat
    · rw [hno m hm, hm.destination]
  · refine h.kept path (fun m hm => ?_)
    constructor
    · exact fun he => hp ⟨m, hm, .inl he⟩
    · exact fun he => hp ⟨m, hm, .inr he⟩

end

/-! What the manifests on the disk say about the files. -/

def Manifest.covers (manifest : Manifest) : List Move :=
  manifest.completedMoves ++ manifest.currentMove.toList

section

variable {α : Type} {files before : Files α} {manifests : Nat → Option Manifest}
  {manifest : Manifest} {m : Move}

structure Manifest.WellFormed (before : Files α) (manifest : Manifest) : Prop where
  eligible : ∀ m ∈ manifest.covers, m.Eligible before
  nodup : manifest.covers.Nodup

theorem Manifest.WellFormed.undo_eq (h : manifest.WellFormed before) :
    manifest.undo = manifest.covers.reverse := by
  unfold Manifest.undo Manifest.covers
  cases hc : manifest.currentMove with
  | none => simp
  | some current =>
    have hco : manifest.covers = manifest.completedMoves ++ [current] := by
      simp [Manifest.covers, hc]
    have hel := h.eligible
    have hno := h.nodup
    rw [hco] at hel hno
    have hany : manifest.completedMoves.any (fun move =>
        move.source == current.source && move.destination == current.destination) = false := by
      rw [List.any_eq_false]
      intro move hmo hsa
      simp only [Bool.and_eq_true, beq_iff_eq] at hsa
      have he : move = current := (hel move (by simp [hmo])).legacy.eq_of_source
        (hel current (by simp)).legacy hsa.1
      subst he
      simp only [List.nodup_append, List.mem_singleton] at hno
      exact hno.2.2 move hmo move rfl rfl
    simp [hany]

/-- The layout is between the first one and the organized one, and every artifact that was
moved is listed by a manifest that was not restored. -/
structure Journaled (before files : Files α) (manifests : Nat → Option Manifest) : Prop where
  relocated : Relocated before files
  wellFormed : ∀ timestamp manifest, manifests timestamp = some manifest →
    manifest.WellFormed before ∧ manifest.timestamp = timestamp
  covered : ∀ m, Move.Eligible before m → (files m.destination).isSome = true →
    ∃ timestamp manifest, manifests timestamp = some manifest ∧
      manifest.status ≠ .restored ∧ m ∈ manifest.covers

theorem Journaled.initial (before : Files α) : Journaled before before (fun _ => none) := by
  refine ⟨.refl before, ?_, ?_⟩
  · intro timestamp manifest h
    cases h
  · intro m hm hd
    rw [hm.destination] at hd
    cases hd

theorem Journaled.write (h : Journaled before files manifests)
    (hm : manifest.WellFormed before) (hs : manifest.status ≠ .restored)
    (hco : ∀ earlier, manifests manifest.timestamp = some earlier →
      earlier.status ≠ .restored → ∀ m ∈ earlier.covers, m ∈ manifest.covers) :
    Journaled before files (Function.update manifests manifest.timestamp (some manifest)) := by
  refine ⟨h.relocated, ?_, ?_⟩
  · intro timestamp found hf
    by_cases ht : timestamp = manifest.timestamp
    · subst ht
      rw [Function.update_self] at hf
      cases hf
      exact ⟨hm, rfl⟩
    · rw [Function.update_of_ne ht] at hf
      exact h.wellFormed timestamp found hf
  · intro m he hd
    obtain ⟨timestamp, found, hf, hst, hmem⟩ := h.covered m he hd
    by_cases ht : timestamp = manifest.timestamp
    · subst ht
      exact ⟨_, manifest, Function.update_self _ _ _, hs, hco found hf hst m hmem⟩
    · exact ⟨timestamp, found, (Function.update_of_ne ht _ _).trans hf, hst, hmem⟩

theorem Journaled.organize (h : Journaled before files manifests) (hm : m.Eligible before)
    (hs : (files m.source).isSome = true)
    (hco : ∃ timestamp manifest, manifests timestamp = some manifest ∧
      manifest.status ≠ .restored ∧ m ∈ manifest.covers) :
    Journaled before (files.rename m.source m.destination) manifests := by
  refine ⟨h.relocated.organize hm hs, h.wellFormed, ?_⟩
  intro m' hm' hd
  by_cases he : m' = m
  · exact he ▸ hco
  · obtain ⟨-, -, h3, h4⟩ := hm.apart hm' he
    rw [rename_other files h3 h4] at hd
    exact h.covered m' hm' hd

theorem Journaled.restore (h : Journaled before files manifests) (hm : m.Eligible before)
    (hd : (files m.destination).isSome = true) :
    Journaled before (files.rename m.destination m.source) manifests := by
  refine ⟨h.relocated.restore hm hd, h.wellFormed, ?_⟩
  intro m' hm' hd'
  by_cases he : m' = m
  · subst he
    rw [rename_source files (hm.legacy.source_ne_destination hm.legacy).symm] at hd'
    cases hd'
  · obtain ⟨-, -, h3, h4⟩ := hm.apart hm' he
    rw [rename_other files h4 h3] at hd'
    exact h.covered m' hm' hd'

theorem Journaled.mark (h : Journaled before files manifests)
    (hma : manifests manifest.timestamp = some manifest)
    (hun : ∀ m ∈ manifest.covers, files m.destination = none) {marked : Manifest}
    (hti : marked.timestamp = manifest.timestamp)
    (hco : marked.completedMoves = manifest.completedMoves)
    (hcu : marked.currentMove = none) :
    Journaled before files (Function.update manifests marked.timestamp (some marked)) := by
  have hwf := (h.wellFormed _ _ hma).1
  have hcov : marked.covers = manifest.completedMoves := by
    simp [Manifest.covers, hco, hcu]
  have hsub : marked.covers.Sublist manifest.covers := by
    rw [hcov]
    exact List.sublist_append_left _ _
  rw [hti]
  refine ⟨h.relocated, ?_, ?_⟩
  · intro timestamp found hf
    by_cases ht : timestamp = manifest.timestamp
    · subst ht
      rw [Function.update_self] at hf
      cases hf
      exact ⟨⟨fun m hm => hwf.eligible m (hsub.subset hm), hwf.nodup.sublist hsub⟩, hti⟩
    · rw [Function.update_of_ne ht] at hf
      exact h.wellFormed timestamp found hf
  · intro m he hd
    obtain ⟨timestamp, found, hf, hst, hmem⟩ := h.covered m he hd
    have ht : timestamp ≠ manifest.timestamp := by
      rintro rfl
      rw [hma] at hf
      cases hf
      rw [hun m hmem] at hd
      cases hd
    exact ⟨timestamp, found, (Function.update_of_ne ht _ _).trans hf, hst, hmem⟩

end

end Realtime.Bootstrap
