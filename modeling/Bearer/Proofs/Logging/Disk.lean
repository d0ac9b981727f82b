import Bearer.Logging.Disk

/-!
When a file can be opened: no file stands where a directory above it has to be, no directory stands in its own
place, and no lock keeps it (`opens_iff`). A disk on which other files were opened since refuses a file only if one of
them is in the way (`GrewBy.opens_iff`).
-/

namespace Bearer.Logging

namespace Path

/-- Neither of two files is where the other one needs a directory. -/
def Apart (p q : Path) : Prop := ¬ p <+: q.dropLast ∧ ¬ q <+: p.dropLast

instance (p q : Path) : Decidable (Apart p q) := inferInstanceAs (Decidable (_ ∧ _))

end Path

namespace Disk

variable {disk disk' : Disk} {above : Path} {names : List String} {p q : Path}

/-! ### Directories -/

/-- A place at or below `above ++ [name]` on the way down. -/
theorem exists_part_cons {name : String} {below : List String} :
    (∃ part, part <+: name :: below ∧ part ≠ [] ∧ q = above ++ part) ↔
      q = above ++ [name] ∨ ∃ part, part <+: below ∧ part ≠ [] ∧ q = above ++ [name] ++ part := by
  constructor
  · rintro ⟨part, front, some_name, rfl⟩
    obtain rfl | ⟨deeper, rfl, inside⟩ := List.prefix_cons_iff.1 front
    · exact (some_name rfl).elim
    · cases deeper with
      | nil => exact .inl rfl
      | cons next deeper => exact .inr ⟨next :: deeper, inside, by simp, by simp⟩
  · rintro (rfl | ⟨part, front, -, rfl⟩)
    · exact ⟨[name], by simp, by simp, rfl⟩
    · exact ⟨name :: part, by simpa using front, by simp, by simp⟩

theorem makeDirectories_cons_of_free {name : String} (free : above ++ [name] ∉ disk.files) (below : List String) :
    ∃ made : Disk, made.files = disk.files ∧ made.locks = disk.locks ∧
      (∀ q, q ∈ made.directories ↔ q ∈ disk.directories ∨ q = above ++ [name]) ∧
      disk.makeDirectories above (name :: below) = made.makeDirectories (above ++ [name]) below := by
  by_cases there : above ++ [name] ∈ disk.directories
  · refine ⟨disk, rfl, rfl, fun q => ⟨.inl, ?_⟩, by simp [makeDirectories, free, there]⟩
    rintro (old | rfl)
    · exact old
    · exact there
  · exact ⟨{ disk with directories := (above ++ [name]) :: disk.directories }, rfl, rfl,
      fun q => by simp [or_comm], by simp [makeDirectories, free, there]⟩

theorem makeDirectories_cons_of_file {name : String} (file : above ++ [name] ∈ disk.files) (below : List String) :
    ∃ e, disk.makeDirectories above (name :: below) = .error e := by
  cases below with
  | nil => exact ⟨.fileAsDirectory (above ++ [name]), by simp [makeDirectories, file]⟩
  | cons next below => exact ⟨.belowFile (above ++ [name] ++ [next]), by simp [makeDirectories, file]⟩

theorem makeDirectories_succeeds_iff :
    (∃ made, disk.makeDirectories above names = .ok made) ↔
      ∀ q ∈ disk.files, ¬ ∃ part, part <+: names ∧ part ≠ [] ∧ q = above ++ part := by
  induction names generalizing disk above with
  | nil =>
    refine iff_of_true ⟨disk, rfl⟩ ?_
    rintro q - ⟨part, front, some_name, -⟩
    exact some_name (List.prefix_nil.1 front)
  | cons name below ih =>
    simp only [exists_part_cons, not_or]
    by_cases file : above ++ [name] ∈ disk.files
    · obtain ⟨e, failed⟩ := makeDirectories_cons_of_file file below
      simp only [failed]
      exact iff_of_false (by simp) fun free => (free _ file).1 rfl
    · obtain ⟨made, files, -, -, eq⟩ := makeDirectories_cons_of_free file below
      rw [eq, ih, files]
      refine forall₂_congr fun q old => (and_iff_right ?_).symm
      rintro rfl
      exact file old

theorem makeDirectories_made (made : disk.makeDirectories above names = .ok disk') :
    disk'.files = disk.files ∧ disk'.locks = disk.locks ∧ ∀ q, q ∈ disk'.directories ↔
      q ∈ disk.directories ∨ ∃ part, part <+: names ∧ part ≠ [] ∧ q = above ++ part := by
  induction names generalizing disk above with
  | nil =>
    obtain rfl := Except.ok.inj made
    refine ⟨rfl, rfl, fun q => ⟨.inl, ?_⟩⟩
    rintro (old | ⟨part, front, some_name, -⟩)
    · exact old
    · exact (some_name (List.prefix_nil.1 front)).elim
  | cons name below ih =>
    by_cases file : above ++ [name] ∈ disk.files
    · obtain ⟨e, failed⟩ := makeDirectories_cons_of_file file below
      rw [failed] at made
      cases made
    · obtain ⟨next, files, locks, directories, eq⟩ := makeDirectories_cons_of_free file below
      obtain ⟨same, kept, more⟩ := ih (eq ▸ made)
      refine ⟨same.trans files, kept.trans locks, fun q => ?_⟩
      rw [more, directories, exists_part_cons, or_assoc]

/-! ### Files -/

/-- Places where a file needs directories. -/
theorem exists_part_nil :
    (∃ part, part <+: names ∧ part ≠ [] ∧ q = [] ++ part) ↔ q <+: names ∧ q ≠ [] := by
  simp

/-- A file does not need a directory in its own place. -/
theorem eq_nil_of_prefix_dropLast (front : p <+: p.dropLast) : p = [] := by
  have shorter := front.length_le
  rw [List.length_dropLast] at shorter
  exact List.length_eq_zero_iff.1 (by omega)

theorem openFile_eq : disk.openFile p = (disk.makeDirectories [] p.dropLast).bind fun made =>
    if p ∈ made.directories then .error (.directory p)
    else (disk.lock? p).elim (.ok (if p ∈ made.files then made else { made with files := p :: made.files }))
      fun lock => .error (.locked lock (disk.first p)) := by
  unfold openFile
  cases disk.makeDirectories [] p.dropLast with
  | error e => rfl
  | ok made =>
    simp only [bind, Except.bind, List.contains_iff_mem]
    split
    · rfl
    · cases disk.lock? p <;> rfl

theorem opens_iff : (∃ made, disk.openFile p = .ok made) ↔
    (∀ f ∈ disk.files, f <+: p.dropLast → f = []) ∧ p ∉ disk.directories ∧ disk.lock? p = none := by
  have above : (∃ made, disk.makeDirectories [] p.dropLast = .ok made) ↔
      ∀ f ∈ disk.files, f <+: p.dropLast → f = [] := by
    rw [makeDirectories_succeeds_iff]
    simp only [exists_part_nil, not_and, ne_eq, Decidable.not_not]
  rw [← above, openFile_eq]
  cases made : disk.makeDirectories [] p.dropLast with
  | error e => exact iff_of_false (by simp [Except.bind]) (by simp)
  | ok next =>
    have itself : p ∈ next.directories ↔ p ∈ disk.directories := by
      rw [(makeDirectories_made made).2.2, exists_part_nil]
      exact or_iff_left fun ⟨front, some_name⟩ => some_name (eq_nil_of_prefix_dropLast front)
    simp only [Except.bind, itself]
    by_cases there : p ∈ disk.directories
    · simp [there]
    · cases kept : disk.lock? p <;> simp [there]

theorem openFile_made (made : disk.openFile p = .ok disk') :
    (∀ f, f ∈ disk'.files ↔ f ∈ disk.files ∨ f = p) ∧ disk'.locks = disk.locks ∧
      ∀ d, d ∈ disk'.directories ↔ d ∈ disk.directories ∨ (d <+: p.dropLast ∧ d ≠ []) := by
  rw [openFile_eq] at made
  cases next : disk.makeDirectories [] p.dropLast with
  | error e => rw [next] at made; cases made
  | ok n =>
    obtain ⟨files, locks, directories⟩ := makeDirectories_made next
    rw [next] at made
    simp only [Except.bind] at made
    split at made
    · cases made
    · cases kept : disk.lock? p with
      | some lock => rw [kept] at made; cases made
      | none =>
        rw [kept] at made
        obtain rfl := Except.ok.inj made
        simp only [exists_part_nil] at directories
        split
        · rename_i there
          refine ⟨fun f => ?_, locks, directories⟩
          rw [files]
          exact (or_iff_left_of_imp (· ▸ files ▸ there)).symm
        · exact ⟨fun f => by simp [files, or_comm], locks, directories⟩

/-! ### Disks over time -/

/-- What opening files, all of them among `ps`, makes of a disk. -/
structure GrewBy (ps : List Path) (disk disk' : Disk) : Prop where
  locks : disk'.locks = disk.locks
  keeps_files : ∀ f ∈ disk.files, f ∈ disk'.files
  keeps_directories : ∀ d ∈ disk.directories, d ∈ disk'.directories
  files : ∀ f ∈ disk'.files, f ∈ disk.files ∨ f ∈ ps
  directories : ∀ d ∈ disk'.directories, d ∈ disk.directories ∨ ∃ p ∈ ps, d <+: p.dropLast

namespace GrewBy

theorem refl (ps : List Path) (disk : Disk) : GrewBy ps disk disk :=
  ⟨rfl, fun _ => id, fun _ => id, fun _ => .inl, fun _ => .inl⟩

theorem of_openFile (made : disk.openFile p = .ok disk') : GrewBy [p] disk disk' := by
  obtain ⟨files, locks, directories⟩ := openFile_made made
  refine ⟨locks, fun f old => (files f).2 (.inl old), fun d old => (directories d).2 (.inl old), fun f there => ?_,
    fun d there => ?_⟩
  · exact ((files f).1 there).imp_right List.mem_singleton.2
  · exact ((directories d).1 there).imp_right fun above => ⟨p, List.mem_singleton.2 rfl, above.1⟩

theorem append {ps qs : List Path} {between : Disk} (first : GrewBy ps disk between)
    (second : GrewBy qs between disk') : GrewBy (ps ++ qs) disk disk' where
  locks := second.locks.trans first.locks
  keeps_files f old := second.keeps_files f (first.keeps_files f old)
  keeps_directories d old := second.keeps_directories d (first.keeps_directories d old)
  files f there := by
    obtain old | new := second.files f there
    · exact (first.files f old).imp_right (List.mem_append_left qs)
    · exact .inr (List.mem_append_right ps new)
  directories d there := by
    obtain old | ⟨q, new, above⟩ := second.directories d there
    · exact (first.directories d old).imp_right fun ⟨q, new, above⟩ => ⟨q, List.mem_append_left qs new, above⟩
    · exact .inr ⟨q, List.mem_append_right ps new, above⟩

/-- Files that were opened are in the way of another one only if they need its place for a directory, or it
theirs. -/
theorem opens_iff {ps : List Path} (grew : GrewBy ps disk disk') (apart : ∀ q ∈ ps, p.Apart q) :
    (∃ made, disk'.openFile p = .ok made) ↔ ∃ made, disk.openFile p = .ok made := by
  have kept : disk'.lock? p = disk.lock? p := by rw [lock?, grew.locks, lock?]
  rw [Disk.opens_iff, Disk.opens_iff, kept]
  constructor
  · rintro ⟨clear, free, unlocked⟩
    exact ⟨fun f old => clear f (grew.keeps_files f old), fun old => free (grew.keeps_directories p old), unlocked⟩
  · rintro ⟨clear, free, unlocked⟩
    refine ⟨fun f there front => ?_, fun there => ?_, unlocked⟩
    · obtain old | new := grew.files f there
      · exact clear f old front
      · exact ((apart f new).2 front).elim
    · obtain old | ⟨q, new, above⟩ := grew.directories p there
      · exact free old
      · exact (apart q new).1 above

end GrewBy

end Disk

end Bearer.Logging
