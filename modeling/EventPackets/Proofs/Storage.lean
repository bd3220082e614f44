import EventPackets.Storage

/-!
# Files that have been created

A path at which a file could be created leads to that file afterwards, with whatever has been put
into it.

## Main results

* `Storage.file?_put_self`, `Storage.file?_put_of_ne` : what has been put at a place is there, and
  what stands at other places stays.
* `Storage.create_eq_ok_iff`, `Storage.createsAt_put_iff` : where files can be created.
* `Storage.openFile_of_create`, `Storage.openFile_put_of_ne` : a created file is found again under
  its path, and what other paths lead to stays.
-/

namespace EventPackets.Storage

variable {s s₁ : Storage} {p q : Place} {b : Bytes} {path : String}

theorem lookup_map_replace {files : List (Place × Bytes)} (h : (files.lookup p).isSome) :
    (files.map fun f => if f.1 = p then (p, b) else f).lookup p = some b := by
  induction files with
  | nil => cases h
  | cons f files ih =>
    obtain ⟨q, c⟩ := f
    by_cases hq : q = p
    · simp [hq]
    · have hne : (p == q) = false := by simpa using Ne.symm hq
      rw [List.lookup_cons, hne] at h
      rw [List.map_cons, if_neg hq, List.lookup_cons, hne]
      exact ih h

/-- What has been put at a place is there. -/
theorem file?_put_self (s : Storage) (p : Place) (b : Bytes) : (s.put p b).file? p = some b := by
  unfold put
  split
  next h => exact lookup_map_replace h
  next h =>
    have hnone : s.files.lookup p = none := Option.not_isSome_iff_eq_none.mp h
    simp [file?, List.lookup_append, hnone]

theorem lookup_map_replace_of_ne {files : List (Place × Bytes)} (h : q ≠ p) :
    (files.map fun f => if f.1 = p then (p, b) else f).lookup q = files.lookup q := by
  induction files with
  | nil => rfl
  | cons f files ih =>
    obtain ⟨r, c⟩ := f
    rw [List.map_cons]
    by_cases hr : r = p
    · have hne : (q == r) = false := by simpa [hr] using h
      have hne' : (q == p) = false := by simpa using h
      rw [if_pos hr, List.lookup_cons, List.lookup_cons, hne, hne']
      exact ih
    · rw [if_neg hr, List.lookup_cons, List.lookup_cons, ih]

/-- What stands at another place is there as before. -/
theorem file?_put_of_ne (s : Storage) (h : q ≠ p) (b : Bytes) :
    (s.put p b).file? q = s.file? q := by
  unfold put
  split
  next => exact lookup_map_replace_of_ne h
  next =>
    have hne : (q == p) = false := by simpa using h
    simp [file?, List.lookup_append, List.lookup_cons, hne]

@[simp]
theorem folders_put (s : Storage) (p : Place) (b : Bytes) : (s.put p b).folders = s.folders := by
  unfold put
  split <;> rfl

@[simp]
theorem home_put (s : Storage) (p : Place) (b : Bytes) : (s.put p b).home = s.home := by
  unfold put
  split <;> rfl

@[simp]
theorem hasFolder_put (s : Storage) (p q : Place) (b : Bytes) :
    (s.put p b).hasFolder q = s.hasFolder q := by
  rw [hasFolder, hasFolder, folders_put]

theorem checkFolder_eq_ok_iff : s.checkFolder p = .ok () ↔ s.hasFolder p = true := by
  unfold checkFolder
  split
  next h => simp [h]
  next h => split <;> simp [h]

/-- Names lead to the same place whatever files there are. -/
theorem walk_put_eq_ok_iff {names : List String} {here : Place} :
    (s.put p b).walk here names = .ok q ↔ s.walk here names = .ok q := by
  induction names generalizing here with
  | nil => exact Iff.rfl
  | cons name names ih =>
    by_cases hfolder : s.hasFolder here
    · have hput : (s.put p b).hasFolder here := by rwa [hasFolder_put]
      rw [walk, walk, checkFolder_eq_ok_iff.mpr hfolder, checkFolder_eq_ok_iff.mpr hput]
      dsimp only
      split
      · exact Iff.rfl
      · exact ih
    · have hwalk {t : Storage} (ht : ¬ t.hasFolder here) : t.walk here (name :: names) ≠ .ok q := by
        rw [walk]
        split
        · nofun
        next hok => exact absurd (checkFolder_eq_ok_iff.mp hok) ht
      exact iff_of_false (hwalk (by rwa [hasFolder_put])) (hwalk hfolder)

theorem resolve_put_eq_ok_iff :
    (s.put p b).resolve path = .ok q ↔ s.resolve path = .ok q := by
  have hstart : (s.put p b).start path = s.start path := by rw [start, start, home_put]
  unfold resolve follow
  split
  · exact Iff.rfl
  · rw [hstart]
    exact walk_put_eq_ok_iff

/-- A file can be created where a path leads, or is there already. -/
structure CreatesAt (s : Storage) (path : String) (p : Place) : Prop where
  asksFolder_eq : asksFolder path = false
  resolve_eq : s.resolve path = .ok p
  hasFolder_eq : s.hasFolder p = false

theorem create_eq_ok_iff : s.create path = .ok (p, s₁) ↔ s.CreatesAt path p ∧ s₁ = s.put p #[] := by
  constructor
  · intro h
    unfold create at h
    split at h
    · cases h
    next hasks =>
      split at h
      · cases h
      next q hresolve =>
        split at h
        · cases h
        next hfolder =>
          obtain ⟨rfl, rfl⟩ := Prod.mk.inj (Except.ok.inj h)
          exact ⟨⟨by simpa using hasks, hresolve, by simpa using hfolder⟩, rfl⟩
  · rintro ⟨h, rfl⟩
    rw [create, h.asksFolder_eq, if_neg Bool.false_ne_true, h.resolve_eq]
    dsimp only
    rw [h.hasFolder_eq, if_neg Bool.false_ne_true]

theorem exists_createsAt (h : ∃ p s₁, s.create path = .ok (p, s₁)) : ∃ p, s.CreatesAt path p := by
  obtain ⟨p, s₁, hcreate⟩ := h
  exact ⟨p, (create_eq_ok_iff.mp hcreate).1⟩

/-- Where a file can be created does not depend on the files that there are. -/
theorem createsAt_put_iff : (s.put q b).CreatesAt path p ↔ s.CreatesAt path p := by
  constructor <;> rintro ⟨hasks, hresolve, hfolder⟩
  · exact ⟨hasks, resolve_put_eq_ok_iff.mp hresolve, by rwa [hasFolder_put] at hfolder⟩
  · exact ⟨hasks, resolve_put_eq_ok_iff.mpr hresolve, by rwa [hasFolder_put]⟩

/-- A file that is there is found under its path. -/
theorem CreatesAt.openFile_eq (h : s.CreatesAt path p) (hb : s.file? p = some b) :
    s.openFile path = .ok (.ofBytes b) := by
  rw [openFile, h.resolve_eq]
  dsimp only
  rw [h.hasFolder_eq, if_neg Bool.false_ne_true, hb]
  dsimp only
  rw [h.asksFolder_eq, if_neg Bool.false_ne_true]

/-- Paths to the same file bring the same content. -/
theorem CreatesAt.openFile_congr {path' : String} (h : s.CreatesAt path p)
    (h' : s.CreatesAt path' p) : s.openFile path = s.openFile path' := by
  rw [openFile, openFile, h.resolve_eq, h'.resolve_eq, h.asksFolder_eq, h'.asksFolder_eq]

/-- What a path leads to does not change when something is put at another place. -/
theorem openFile_put_of_ne (hq : s.resolve path = .ok q) (h : q ≠ p) (b : Bytes) :
    (s.put p b).openFile path = s.openFile path := by
  rw [openFile, openFile, resolve_put_eq_ok_iff.mpr hq, hq]
  dsimp only
  rw [hasFolder_put, file?_put_of_ne s h]

/-- A created file is found again under its path, with what has been put into it. -/
theorem openFile_of_create (h : s.create path = .ok (p, s₁)) (b : Bytes) :
    (s₁.put p b).openFile path = .ok (.ofBytes b) := by
  obtain ⟨hp, rfl⟩ := create_eq_ok_iff.mp h
  exact CreatesAt.openFile_eq (createsAt_put_iff.mpr (createsAt_put_iff.mpr hp))
    (file?_put_self _ p b)

/-- What opening a path brings: the content of a file, or a folder that cannot be read. -/
theorem openFile_eq_ok {source : Source} (h : s.openFile path = .ok source) :
    (∃ b, source = .ofBytes b) ∨
      source = { Source.ofBytes #[] with faults := [⟨0, .failed .isFolder⟩] } := by
  unfold openFile at h
  split at h
  · cases h
  split at h
  · exact .inr (Except.ok.inj h).symm
  split at h
  · cases h
  next b hb =>
    split at h
    · cases h
    · exact .inl ⟨b, (Except.ok.inj h).symm⟩

end EventPackets.Storage
