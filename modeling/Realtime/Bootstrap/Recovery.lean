import Realtime.Bootstrap.Journal

/-! Recovery of the bootstrap layout. The runs keep the journal, whatever call of them
fails or crashes, so the layout is the initial one as soon as every manifest is restored. -/

namespace Realtime.Bootstrap

open List

def OrganizePhase.pending (manifest : Manifest) : OrganizePhase → List Move
  | .preparing | .creating => manifest.moves
  | .checking move remaining => move :: remaining
  | .journaling _ remaining | .renaming _ remaining | .recording remaining => remaining
  | .finishing | .abandoning => []

/-- What `currentMove` is in a phase. -/
def OrganizePhase.Current (manifest : Manifest) : OrganizePhase → Prop
  | .journaling move _ | .renaming move _ => manifest.currentMove = some move
  | .abandoning => True
  | _ => manifest.currentMove = none

section

variable {α : Type} {before : Files α} {w t : LayoutWorld α} {manifest : Manifest} {m : Move}

/-- A run that organizes: what the disk has under its name is also in its memory. -/
structure Organizing (before : Files α) (manifests : Nat → Option Manifest) (manifest : Manifest)
    (phase : OrganizePhase) : Prop where
  eligible : ∀ m ∈ manifest.covers ++ phase.pending manifest, m.Eligible before
  nodup : (manifest.covers ++ phase.pending manifest).Nodup
  status : manifest.status ≠ .restored
  current : phase.Current manifest
  disk : ∀ earlier, manifests manifest.timestamp = some earlier →
    earlier.status ≠ .restored → ∀ m ∈ earlier.covers, m ∈ manifest.covers
  journaled : ∀ move remaining, phase = .renaming move remaining →
    ∃ earlier, manifests manifest.timestamp = some earlier ∧ earlier.status ≠ .restored ∧
      move ∈ earlier.covers

def Restoring (files : Files α) (manifest : Manifest) : RestorePhase → Prop
  | .validating pending planned => ∃ checked, manifest.undo = checked ++ pending ∧
      planned = checked.filter (fun m => (files m.destination).isSome)
  | .moving remaining _ => remaining.Sublist manifest.undo ∧
      ∀ m ∈ manifest.undo, ((files m.destination).isSome = true ↔ m ∈ remaining)
  | .marking _ => ∀ m ∈ manifest.undo, files m.destination = none

def RunOk (before files : Files α) (manifests : Nat → Option Manifest) : Option LayoutRun → Prop
  | some (.organizing manifest phase) => Organizing before manifests manifest phase
  | some (.restoring manifest _ phase) => manifests manifest.timestamp = some manifest ∧
      manifest.status ≠ .restored ∧ Restoring files manifest phase
  | _ => True

structure LayoutWorld.Recoverable (before : Files α) (w : LayoutWorld α) : Prop where
  journaled : Journaled before w.files w.manifests
  run : RunOk before w.files w.manifests w.run

variable [LayoutRuntime α] {root : Text} {files : Files α} {input : CallInput}

variable {acc result : Inventory}

theorem inventoryEntry_moves {entry : Entry} (h : inventoryEntry root files acc entry = .ok result) :
    result.moves = acc.moves ∨ ∃ environment,
      classifyLegacyBootstrapArtifact entry.name = some environment ∧ entry.isFile = true ∧
      files (legacyMove environment entry.name).destination = none ∧
      result.moves = acc.moves ++ [legacyMove environment entry.name] := by
  unfold inventoryEntry at h
  split at h
  · cases h
    exact .inl rfl
  · next hfi =>
    split at h
    · cases h
      exact .inl rfl
    · next environment hc =>
      simp only at h
      split at h
      · cases h
      · split at h
        · cases h
        · split at h
          · cases h
            exact .inl rfl
          · next hd =>
            cases h
            exact .inr ⟨environment, hc, by simpa using hfi, hd, rfl⟩

theorem inventory_moves {entries : List Entry}
    (h : entries.foldlM (inventoryEntry root files) acc = .ok result) :
    ∃ added, result.moves = acc.moves ++ added ∧
      (added.map (·.source)).Sublist (entries.map (fun entry => [entry.name])) ∧
      ∀ m ∈ added, m.IsLegacy ∧ files m.destination = none ∧
        ∃ entry ∈ entries, entry.isFile = true ∧ m.source = [entry.name] := by
  induction entries generalizing acc with
  | nil =>
    cases h
    exact ⟨[], by simp, Sublist.refl _, forall_mem_nil _⟩
  | cons entry entries ih =>
    rw [foldlM_cons] at h
    cases he : inventoryEntry root files acc entry with
    | error failure =>
      rw [he] at h
      cases h
    | ok middle =>
      rw [he] at h
      obtain ⟨added, hmo, hsub, hall⟩ := ih h
      have hli (m : Move) (hm : m ∈ added) : m.IsLegacy ∧ files m.destination = none ∧
          ∃ e ∈ entry :: entries, e.isFile = true ∧ m.source = [e.name] := by
        obtain ⟨hle, hd, e, hmem, hre⟩ := hall m hm
        exact ⟨hle, hd, e, mem_cons_of_mem _ hmem, hre⟩
      rcases inventoryEntry_moves he with hsa | ⟨environment, hc, hfi, hd, hmi⟩
      · exact ⟨added, hsa ▸ hmo, hsub.cons _, hli⟩
      · refine ⟨legacyMove environment entry.name :: added, ?_, hsub.cons_cons _, ?_⟩
        · rw [hmo, hmi, append_assoc, singleton_append]
        · intro m hm
          rcases mem_cons.mp hm with rfl | hm
          · exact ⟨⟨environment, entry.name, hc, rfl⟩, hd, entry, mem_cons_self, hfi, rfl⟩
          · exact hli m hm

/-- The timestamp of a new manifest is not that of an earlier one that was not restored. -/
def LayoutWorld.fresh (w : LayoutWorld α) : LayoutLabel → Bool
  | .call input =>
    match w.run with
    | some (.listing false) =>
      (w.manifests input.clock).all (fun earlier => earlier.status = .restored)
    | _ => true
  | _ => true

section

variable {phase phase' : OrganizePhase} {manifest' : Manifest}
  {manifests : Nat → Option Manifest}

omit [LayoutRuntime α] in
theorem Organizing.write (h : Organizing before w.manifests manifest phase)
    (hj : Journaled before w.files w.manifests) :
    Journaled before (w.write manifest).files (w.write manifest).manifests := by
  refine hj.write ⟨?_, ?_⟩ h.status h.disk
  · exact fun m hm => h.eligible m (mem_append_left _ hm)
  · exact h.nodup.sublist (sublist_append_left _ _)

omit [LayoutRuntime α] in
theorem Organizing.goto (h : Organizing before w.manifests manifest phase)
    (hmo : (manifest'.covers ++ phase'.pending manifest').Sublist
      (manifest.covers ++ phase.pending manifest))
    (hst : manifest'.status ≠ .restored) (hcu : phase'.Current manifest')
    (hdi : ∀ earlier, manifests manifest'.timestamp = some earlier →
      earlier.status ≠ .restored → ∀ m ∈ earlier.covers, m ∈ manifest'.covers)
    (hjo : ∀ move remaining, phase' = .renaming move remaining →
      ∃ earlier, manifests manifest'.timestamp = some earlier ∧ earlier.status ≠ .restored ∧
        move ∈ earlier.covers) : Organizing before manifests manifest' phase' :=
  ⟨fun m hm => h.eligible m (hmo.subset hm), h.nodup.sublist hmo, hst, hcu, hdi,
    hjo⟩

omit [LayoutRuntime α] in
theorem write_manifests (w : LayoutWorld α) (manifest : Manifest) :
    (w.write manifest).manifests manifest.timestamp = some manifest :=
  Function.update_self _ _ _

omit [LayoutRuntime α] in
theorem disk_write (w : LayoutWorld α) (manifest earlier : Manifest)
    (he : (w.write manifest).manifests manifest.timestamp = some earlier)
    (_ : earlier.status ≠ .restored) (m : Move) (hm : m ∈ earlier.covers) :
    m ∈ manifest.covers := by
  rw [write_manifests] at he
  cases he
  exact hm

omit [LayoutRuntime α] in
theorem Organizing.next (h : Organizing before w.manifests manifest phase)
    (hcu : manifest.currentMove = none) :
    RunOk before w.files (w.write manifest).manifests
      (some (manifest.next (phase.pending manifest))) := by
  cases hp : phase.pending manifest with
  | nil =>
    refine h.goto ?_ nofun hcu (disk_write w manifest) nofun
    rw [hp]
    exact Sublist.refl _
  | cons move remaining =>
    refine h.goto ?_ h.status hcu (disk_write w manifest) nofun
    rw [hp]
    exact Sublist.refl _

omit [LayoutRuntime α] in
theorem Organizing.abandon (h : Organizing before w.manifests manifest phase) (error : Text) :
    RunOk before w.files w.manifests (some (manifest.abandon error)) := by
  refine h.goto ?_ nofun trivial h.disk nofun
  have hco : Manifest.covers { manifest with status := .incomplete, error := some error } =
      manifest.covers := rfl
  rw [hco]
  exact (append_nil manifest.covers).symm ▸ sublist_append_left _ _

end

namespace LayoutWorld

omit [LayoutRuntime α] in
theorem Recoverable.finish (h : w.Recoverable before) (outcome : LayoutOutcome) :
    (w.finish outcome).Recoverable before := ⟨h.journaled, trivial⟩

variable {dryRun : Bool} {timestamp : Nat} {inputs : List CallInput}

theorem Recoverable.listing (h : w.Recoverable before)
    (hfr : dryRun = false → (w.manifests input.clock).all (fun earlier => earlier.status =
      .restored) = true) (ht : w.stepListing root dryRun input = some t) :
    t.Recoverable before := by
  unfold stepListing at ht
  split at ht
  · cases ht
    exact h.finish _
  · split at ht
    · next hli =>
      split at ht
      · cases ht
        exact h.finish _
      · next result hre =>
        split at ht
        · cases ht
          exact h.finish _
        · split at ht
          · cases ht
            exact h.finish _
          · next hdry =>
            cases ht
            refine ⟨h.journaled, ?_⟩
            obtain ⟨added, hmo, hsub, hall⟩ := inventory_moves hre
            have hmo : result.moves = added := hmo
            have hna : (input.entries.map (fun entry => [entry.name])).Nodup := by
              have hmap := hli.1.map (f := fun name : Text => [name])
                (fun a b hab => singleton_inj.mp hab)
              rwa [map_map] at hmap
            have hno : result.moves.Nodup := by
              rw [hmo]
              exact Nodup.of_map _ (hna.sublist hsub)
            refine ⟨?_, hno, ?_, rfl, ?_, nofun⟩
            · intro m hm
              have hm : m ∈ added := hmo ▸ hm
              obtain ⟨hle, hd, entry, hen, hfi, hso⟩ := hall m hm
              refine h.journaled.relocated.eligible hle ?_ hd
              have hex := all_eq_true.mp hli.2 entry hen
              rw [hso]
              simpa [hfi] using hex
            · simp [newManifest, hdry]
            · intro earlier he hst
              have hall := hfr (by simpa using hdry)
              have he : w.manifests input.clock = some earlier := he
              rw [he] at hall
              exact absurd (by simpa using hall) hst
    · cases ht

theorem Recoverable.organizing (h : w.Recoverable before) {phase : OrganizePhase}
    (hrun : Organizing before w.manifests manifest phase)
    (ht : w.stepOrganizing root manifest phase input = some t) : t.Recoverable before := by
  have hcovers_of (hc : manifest.currentMove = none) :
      manifest.covers = manifest.completedMoves := by
    simp [Manifest.covers, hc]
  revert ht
  fun_cases stepOrganizing root w manifest phase input <;> intro ht <;> cases ht
  case case1 =>
    exact ⟨h.journaled, hrun.goto (Sublist.refl _) hrun.status hrun.current hrun.disk (by simp)⟩
  case case2 | case9 => exact ⟨hrun.write h.journaled, hrun.next hrun.current⟩
  case case3 | case4 | case12 => exact h.finish _
  case case5 move remaining _ =>
    have hco := hcovers_of hrun.current
    refine ⟨h.journaled, hrun.goto ?_ hrun.status rfl ?_ (by simp)⟩
    · simp [Manifest.covers, OrganizePhase.pending]
    · intro earlier he hst m hm
      have hm := hrun.disk earlier he hst m hm
      rw [hco] at hm
      exact mem_append_left _ hm
  case case6 move remaining _ =>
    have hmem : move ∈ manifest.covers := by
      have hcu : manifest.currentMove = some move := hrun.current
      simp [Manifest.covers, hcu]
    refine ⟨hrun.write h.journaled, hrun.goto (Sublist.refl _) hrun.status hrun.current
      (disk_write w manifest) ?_⟩
    rintro move' remaining' ⟨⟩
    exact ⟨manifest, write_manifests w manifest, hrun.status, hmem⟩
  case case7 move remaining _ hs =>
    have hcu : manifest.currentMove = some move := hrun.current
    have hco : manifest.covers = manifest.completedMoves ++ [move] := by
      simp [Manifest.covers, hcu]
    have hel : move.Eligible before :=
      hrun.eligible move (mem_append_left _ (by simp [hco]))
    obtain ⟨earlier, he, hst, hmem⟩ := hrun.journaled move remaining rfl
    refine ⟨h.journaled.organize hel hs ⟨_, earlier, he, hst, hmem⟩,
      hrun.goto ?_ hrun.status rfl ?_ (by simp)⟩
    · simp [Manifest.covers, hcu, OrganizePhase.pending]
    · intro found hf hfo m hm
      have hm := hrun.disk found hf hfo m hm
      rw [hco] at hm
      exact mem_append_left _ hm
  case case10 | case11 => exact ⟨hrun.write h.journaled, trivial⟩
  case case13 error _ _ _ _ => exact ⟨h.journaled, hrun.abandon error⟩

omit [LayoutRuntime α] in
theorem Recoverable.reading (h : w.Recoverable before) :
    w.stepReading timestamp dryRun input = some t → t.Recoverable before := by
  fun_cases stepReading w timestamp dryRun input <;> intro ht <;> cases ht
  case case1 | case2 => exact h.finish _
  case case3 hm _ hst =>
    have hti := (h.journaled.wellFormed timestamp _ hm).2
    exact ⟨h.journaled, hti.symm ▸ hm, hst, [], rfl, rfl⟩

omit [LayoutRuntime α] in
theorem mem_undo (h : Journaled before w.files w.manifests)
    (hm : w.manifests manifest.timestamp = some manifest) :
    (∀ m, m ∈ manifest.undo ↔ m ∈ manifest.covers) ∧ manifest.undo.Nodup ∧
      ∀ m ∈ manifest.undo, m.Eligible before := by
  have hwf := (h.wellFormed _ _ hm).1
  rw [hwf.undo_eq]
  refine ⟨fun m => mem_reverse, nodup_reverse.mpr hwf.nodup, ?_⟩
  intro m hmem
  exact hwf.eligible m (mem_reverse.mp hmem)

omit [LayoutRuntime α] in
theorem checkUndo_ok {sourceExists : Bool}
    (h : checkUndo root files m = .ok sourceExists) :
    sourceExists = (files m.destination).isSome := by
  unfold checkUndo at h
  split at h
  · cases h
  · split at h
    · cases h
    · split at h
      · cases h
      · cases h
      · cases h
        rfl

omit [LayoutRuntime α] in
theorem Recoverable.restoring (h : w.Recoverable before) {phase : RestorePhase}
    (hm : w.manifests manifest.timestamp = some manifest) (hs : manifest.status ≠ .restored)
    (hrun : Restoring w.files manifest phase)
    (ht : w.stepRestoring root manifest dryRun phase input = some t) : t.Recoverable before := by
  obtain ⟨hco, hno, hel⟩ := mem_undo h.journaled hm
  revert ht
  fun_cases stepRestoring root w manifest dryRun phase input <;> intro ht <;> cases ht
  case case1 | case2 | case4 | case10 | case11 => exact h.finish _
  case case3 move pending planned _ sourceExists hch =>
    obtain ⟨checked, hun, rfl⟩ := hrun
    refine ⟨h.journaled, hm, hs, checked ++ [move], by simp [hun], ?_⟩
    rw [checkUndo_ok hch, filter_append]
    cases hd : (w.files move.destination).isSome <;> simp [hd]
  case case5 planned _ _ =>
    obtain ⟨checked, hun, rfl⟩ := hrun
    rw [append_nil] at hun
    refine ⟨h.journaled, hm, hs, ?_, ?_⟩
    · rw [hun]
      exact filter_sublist
    · intro m hmem
      rw [hun] at hmem
      simp [mem_filter, hmem]
  case case6 move remaining planned _ hd =>
    obtain ⟨hsub, hle⟩ := hrun
    have hmo : move ∈ manifest.undo := hsub.subset mem_cons_self
    have hnot : move ∉ remaining := (nodup_cons.mp (hno.sublist hsub)).1
    refine ⟨h.journaled.restore (hel move hmo) hd, hm, hs,
      (sublist_cons_self move remaining).trans hsub, ?_⟩
    intro m hmem
    by_cases he : m = move
    · subst he
      have hne := ((hel m hmem).legacy.source_ne_destination (hel m hmem).legacy).symm
      simp [goto, rename_source w.files hne, hnot]
    · obtain ⟨-, -, h3, h4⟩ := (hel move hmo).apart (hel m hmem) he
      simp only [goto, rename_other w.files h4 h3]
      rw [hle m hmem, mem_cons]
      simp [he]
  case case8 =>
    obtain ⟨-, hle⟩ := hrun
    refine ⟨h.journaled, hm, hs, ?_⟩
    intro m hmem
    have hnot := (hle m hmem).not.mpr not_mem_nil
    simpa using hnot
  case case9 =>
    refine ⟨h.journaled.mark hm ?_ rfl rfl rfl, trivial⟩
    intro m hmem
    exact hrun m ((hco m).mpr hmem)

theorem Recoverable.step {label : LayoutLabel} (h : w.Recoverable before)
    (hfr : w.fresh label = true) : LayoutWorld.step root w label = some t →
    t.Recoverable before := by
  fun_cases LayoutWorld.step root w label <;> intro ht
  case case1 | case2 =>
    cases ht
    exact ⟨h.journaled, trivial⟩
  case case3 input dryRun hrun =>
    refine h.listing ?_ ht
    rintro rfl
    simpa [fresh, hrun] using hfr
  case case4 hrun =>
    have hr := h.run
    rw [hrun] at hr
    exact h.organizing hr ht
  case case5 => exact h.reading ht
  case case6 hrun =>
    have hr := h.run
    rw [hrun] at hr
    exact h.restoring hr.1 hr.2.1 hr.2.2 ht
  case case7 =>
    cases ht
    exact h.finish _
  case case8 => cases ht

theorem Recoverable.of_run {labels : List LayoutLabel}
    (hok : (LayoutWorld.step root).Along (fun w label => w.fresh label = true)
      { files := before } labels)
    (hw : (LayoutWorld.step root).run { files := before } labels = some w) :
    w.Recoverable before := by
  have hin : ({ files := before } : LayoutWorld α).Recoverable before :=
    ⟨.initial before, trivial⟩
  exact StepFn.run_induct_along (fun _ _ _ h hfr ht => h.step hfr ht) hin hok hw

/-! A restore that is not disturbed completes. -/

omit [LayoutRuntime α] in
theorem checkUndo_eligible (h : Relocated before files) (hm : m.Eligible before) :
    checkUndo root files m = .ok (files m.destination).isSome := by
  obtain ⟨hs, hd⟩ := hm.legacy.inside
  have hone := h.isSome_eq hm
  unfold checkUndo
  rw [hs, hd, hone]
  cases (files m.destination).isSome <;> rfl

def quiet (calls : Nat) : List LayoutLabel := List.replicate calls (.call {})

def displaced (files : Files α) (moves : List Move) : List Move :=
  moves.filter (fun m => (files m.destination).isSome)

theorem validating_completes {pending planned : List Move}
    (hrun : w.run = some (.restoring manifest false (.validating pending planned)))
    (hch : ∀ m ∈ pending, checkUndo root w.files m = .ok (w.files m.destination).isSome) :
    ∃ n, (LayoutWorld.step root).run w (quiet (pending.length + 1)) = some
      (w.goto (.restoring manifest false (.moving (planned ++ displaced w.files pending) n))) := by
  induction pending generalizing w planned with
  | nil =>
    refine ⟨planned.length, ?_⟩
    simp [quiet, LayoutWorld.step, hrun, stepRestoring, displaced]
  | cons move pending ih =>
    let planned' := planned ++ displaced w.files [move]
    have hst : LayoutWorld.step root w (.call {}) =
        some (w.goto (.restoring manifest false (.validating pending planned'))) := by
      have hne := hch move mem_cons_self
      cases hd : (w.files move.destination).isSome <;>
        simp [LayoutWorld.step, hrun, stepRestoring, hne, planned', displaced, hd]
    obtain ⟨n, ht⟩ := ih (w := w.goto (.restoring manifest false (.validating pending planned')))
      rfl (fun m hm => hch m (mem_cons_of_mem _ hm))
    refine ⟨n, ?_⟩
    have hsp : planned ++ displaced w.files (move :: pending) =
        planned' ++ displaced w.files pending := by
      simp [planned', displaced, filter_cons]
      split <;> simp
    rw [quiet, length_cons, replicate_succ, StepFn.run_cons, hst, hsp]
    exact ht

theorem moving_completes {remaining : List Move} {planned : Nat}
    (hrun : w.run = some (.restoring manifest false (.moving remaining planned)))
    (hno : remaining.Nodup) (hel : ∀ m ∈ remaining, m.Eligible before)
    (hfi : ∀ m ∈ remaining, (w.files m.destination).isSome = true) :
    ∃ t marked, (LayoutWorld.step root).run w (quiet (remaining.length + 2)) = some t ∧
      t.run = none ∧ t.manifests manifest.timestamp = some marked ∧ marked.status = .restored := by
  induction remaining generalizing w with
  | nil =>
    have hla : LayoutWorld.step root w (.call {}) =
        some (w.goto (.restoring manifest false (.marking planned))) := by
      simp [LayoutWorld.step, hrun, stepRestoring]
    refine ⟨(w.write { manifest with
        currentMove := none
        status := .restored
        restoredAt := some 0 }).finish (.restored planned planned false), _, ?_, rfl,
      Function.update_self _ _ _, rfl⟩
    rw [quiet, length_nil, replicate_succ, StepFn.run_cons, hla]
    rfl
  | cons move remaining ih =>
    have hmo := hel move mem_cons_self
    have hex := hfi move mem_cons_self
    have hst : LayoutWorld.step root w (.call {}) =
        some ({ w with files := w.files.rename move.destination move.source }.goto
          (.restoring manifest false (.moving remaining planned))) := by
      simp [LayoutWorld.step, hrun, stepRestoring, hex]
    rw [quiet, length_cons, Nat.add_right_comm, replicate_succ, StepFn.run_cons, hst]
    refine ih rfl (nodup_cons.mp hno).2
      (fun m hm => hel m (mem_cons_of_mem _ hm)) ?_
    intro m hm
    have hne : m ≠ move := by
      rintro rfl
      exact (nodup_cons.mp hno).1 hm
    obtain ⟨-, -, h3, h4⟩ := hmo.apart (hel m (mem_cons_of_mem _ hm)) hne
    simp only [goto_files, rename_other w.files h4 h3]
    exact hfi m (mem_cons_of_mem _ hm)

theorem Recoverable.restore_completes (h : w.Recoverable before) (hid : w.run = none)
    (hm : w.manifests timestamp = some manifest) (hs : manifest.status ≠ .restored) :
    ∃ calls t marked, (LayoutWorld.step root).run w (.restore timestamp false :: quiet calls) =
      some t ∧ t.run = none ∧ t.manifests timestamp = some marked ∧ marked.status = .restored := by
  obtain ⟨hwf, rfl⟩ := h.journaled.wellFormed timestamp manifest hm
  -- the first call reads the manifest
  let started : LayoutWorld α :=
    { w with run := some (.reading manifest.timestamp false), outcome := none }
  let reading : LayoutWorld α :=
    started.goto (.restoring manifest false (.validating manifest.undo []))
  have hst : LayoutWorld.step root w (.restore manifest.timestamp false) = some started := by
    simp [LayoutWorld.step, hid, started]
  have hre : LayoutWorld.step root started (.call {}) = some reading := by
    simp [LayoutWorld.step, started, reading, stepReading, hm, hs]
  obtain ⟨-, hno, hel⟩ := mem_undo h.journaled hm
  have hch (m : Move) (hmem : m ∈ manifest.undo) :
      checkUndo root reading.files m = .ok (reading.files m.destination).isSome :=
    checkUndo_eligible h.journaled.relocated (hel m hmem)
  obtain ⟨n, hva⟩ := validating_completes rfl hch
  rw [nil_append] at hva
  let remaining := displaced w.files manifest.undo
  obtain ⟨t, marked, hmo, hdo⟩ : ∃ t marked, (LayoutWorld.step root).run
      (reading.goto (.restoring manifest false (.moving remaining n)))
      (quiet (remaining.length + 2)) = some t ∧ t.run = none ∧
      t.manifests manifest.timestamp = some marked ∧ marked.status = .restored :=
    moving_completes rfl (hno.sublist filter_sublist)
      (fun m hmem => hel m (mem_filter.mp hmem).1)
      (fun m hmem => (mem_filter.mp hmem).2)
  refine ⟨1 + ((manifest.undo.length + 1) + (remaining.length + 2)), t, marked, ?_, hdo⟩
  rw [quiet, replicate_add, replicate_add, StepFn.run_cons, hst]
  change (LayoutWorld.step root).run started (.call {} :: _) = _
  rw [StepFn.run_cons, hre]
  change (LayoutWorld.step root).run reading (quiet _ ++ quiet _) = _
  rw [StepFn.run_append, hva]
  exact hmo

/-! A restore that is refused has moved nothing. -/

def Unmoved (files : Files α) (w : LayoutWorld α) : Prop :=
  match w.run with
  | some (.reading _ _) | some (.restoring _ _ (.validating _ _)) => w.files = files
  | some (.restoring _ _ _) => True
  | none => ∀ failure, w.outcome = some (.refused failure) → w.files = files
  | _ => False

omit [LayoutRuntime α] in
theorem unmoved_reading (h : w.files = files) : w.stepReading timestamp dryRun input = some t →
    Unmoved files t := by
  fun_cases stepReading w timestamp dryRun input <;> intro ht <;> cases ht
  case case1 | case2 => exact fun _ _ => h
  case case3 => exact h

omit [LayoutRuntime α] in
theorem unmoved_restoring {phase : RestorePhase}
    (h : ∀ pending planned, phase = .validating pending planned → w.files = files) :
    w.stepRestoring root manifest dryRun phase input = some t → Unmoved files t := by
  fun_cases stepRestoring root w manifest dryRun phase input <;> intro ht <;> cases ht
  case case1 | case2 => exact fun _ _ => h _ _ rfl
  case case3 => exact h _ _ rfl
  case case5 | case6 | case8 => trivial
  -- what fails after the validation is not a refusal
  all_goals
    intro failure hfa
    cases hfa

theorem Unmoved.call (h : Unmoved files w)
    (ht : LayoutWorld.step root w (.call input) = some t) : Unmoved files t := by
  unfold Unmoved at h
  unfold LayoutWorld.step at ht
  cases hrun : w.run with
  | none => simp [hrun] at ht
  | some run =>
    rw [hrun] at h ht
    cases run with
    | listing dryRun => cases h
    | organizing manifest phase => cases h
    | reading timestamp dryRun => exact unmoved_reading h ht
    | restoring manifest dryRun phase =>
      refine unmoved_restoring ?_ ht
      rintro pending planned rfl
      exact h

theorem Unmoved.calls (h : Unmoved files w)
    (ht : (LayoutWorld.step root).run w (inputs.map .call) = some t) : Unmoved files t := by
  induction inputs generalizing w with
  | nil =>
    cases ht
    exact h
  | cons input inputs ih =>
    obtain ⟨next, hne, ht⟩ := StepFn.run_cons_eq_some.mp ht
    exact ih (h.call hne) ht

theorem refused_moved_nothing {failure : LayoutFailure}
    (ht : (LayoutWorld.step root).run w (.restore timestamp dryRun :: inputs.map .call) = some t)
    (hsto : t.run = none) (hfa : t.outcome = some (.refused failure)) :
    t.files = w.files := by
  obtain ⟨started, hst, ht⟩ := StepFn.run_cons_eq_some.mp ht
  have hin : Unmoved w.files started := by
    unfold LayoutWorld.step at hst
    cases hrun : w.run with
    | none =>
      rw [hrun] at hst
      cases hst
      rfl
    | some run => simp [hrun] at hst
  have hun := hin.calls ht
  unfold Unmoved at hun
  rw [hsto] at hun
  exact hun failure hfa

end LayoutWorld

end

/-! Two manifests of one time. -/

@[reducible] def exampleLayout : LayoutRuntime Nat where
  size := id
  sha256 := fun _ => []
  manifestName := decimal

def exampleArtifact : Text := utf16 "bootstrap.dev.json"

def exampleFiles : Files Nat := fun path => if path = [exampleArtifact] then some 7 else none

def exampleListing (clock : Nat) : LayoutLabel :=
  .call { entries := [⟨exampleArtifact, true⟩], clock := clock }

/-- The second run finds nothing to move and writes its manifest over the first one. -/
def exampleOverwrite : List LayoutLabel :=
  [[.organize false, exampleListing 0], LayoutWorld.quiet 7,
    [.organize false], LayoutWorld.quiet 4,
    [.restore 0 false], LayoutWorld.quiet 4].flatten

def exampleCrashes : List LayoutLabel :=
  [[.organize false, exampleListing 0], LayoutWorld.quiet 5, [.crash, .restore 0 false],
    LayoutWorld.quiet 4, [.crash, .organize false, exampleListing 1], LayoutWorld.quiet 7,
    [.restore 1 false], LayoutWorld.quiet 6, [.restore 0 false], LayoutWorld.quiet 5].flatten

end Realtime.Bootstrap
