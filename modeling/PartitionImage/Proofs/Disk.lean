import PartitionImage.Disk
/-!
# Files that are made

What `Disk.create` leaves under a path, and what a change to a file leaves alone.

* `Disk.Keeps` says that every name of a disk still leads where it led on another one.
* `Disk.ChangesOnly` says that nothing is different but the bytes of one file; `Disk.changesOnly_write` and
  `Disk.changesOnly_setLength` are the changes that a file can have.
* `Disk.create_inv` is what making a file does, `Disk.lookupFile_create` and `Disk.content_create` what is
  there afterwards.
* `Disk.Vacant` says that a file can be made at a path and that nothing is lost with it.
* `Disk.Sound` says that every name leads to a file that was made.
* `Disk.Beside` says that nothing but one file is different for those who hold the others, `Disk.beside_create`
  that so it is when that file is made.
-/

namespace PartitionImage

theorem bind_eq_ok_iff {ε α β : Type} {result : Except ε α} {next : α → Except ε β} {value : β} :
    result >>= next = .ok value ↔ ∃ first, result = .ok first ∧ next first = .ok value := by
  cases result with
  | error error =>
    constructor
    · intro h
      cases h
    · rintro ⟨first, h, -⟩
      cases h
  | ok first =>
    constructor
    · intro h
      exact ⟨first, rfl, h⟩
    · rintro ⟨other, hother, h⟩
      cases hother
      exact h

namespace Disk

variable {disk other made : Disk} {path : String} {id : FileId}

/-! ### Names -/

/-- Every name of the first disk leads to the same on the second. -/
def Keeps (disk other : Disk) : Prop :=
  ∀ place node, disk.node? place = some node → other.node? place = some node

theorem Keeps.walk (hkeeps : disk.Keeps other) {reached parts : List String}
    {result : List String × String} (h : disk.walk reached parts = .ok result) :
    other.walk reached parts = .ok result := by
  induction reached, parts using walk.induct with
  | case1 reached => exact h
  | case2 reached last => exact h
  | case3 reached part rest hrest ih =>
    rw [walk.eq_3 _ _ _ _ hrest, bind_eq_ok_iff] at h ⊢
    obtain ⟨place, henter, h⟩ := h
    refine ⟨place, henter, ?_⟩
    split at h
    · cases h
    · cases h
    · next hnode =>
      rw [hkeeps _ _ hnode]
      exact ih place h

theorem Keeps.approach (hkeeps : disk.Keeps other) {result : List String × String}
    (h : disk.approach path = .ok result) : other.approach path = .ok result := by
  unfold Disk.approach at h ⊢
  rw [bind_eq_ok_iff] at h ⊢
  obtain ⟨checked, hcheck, h⟩ := h
  exact ⟨checked, hcheck, hkeeps.walk h⟩

theorem Keeps.resolve (hkeeps : disk.Keeps other) {place : List String}
    (h : disk.resolve path = .ok place) : other.resolve path = .ok place := by
  unfold Disk.resolve at h ⊢
  rw [bind_eq_ok_iff] at h ⊢
  obtain ⟨found, happroach, h⟩ := h
  exact ⟨found, hkeeps.approach happroach, h⟩

/-- A path names a file if it leads to one and does not end as the path of a directory does. -/
theorem lookupFile_eq_ok_iff :
    disk.lookupFile path = .ok id
      ↔ ∃ place, disk.resolve path = .ok place ∧ disk.node? place = some (.file id)
        ∧ endsWithSlash path = false := by
  unfold lookupFile lookup
  simp only [bind_eq_ok_iff]
  constructor
  · rintro ⟨node, ⟨place, hresolve, hlookup⟩, hfile⟩
    refine ⟨place, hresolve, ?_⟩
    split at hlookup
    · cases hlookup
    · cases hlookup
      cases hfile
    · next found hnode =>
      split at hlookup
      · cases hlookup
      · next hslash =>
        cases hlookup
        cases hfile
        exact ⟨hnode, Bool.eq_false_iff.mpr hslash⟩
  · rintro ⟨place, hresolve, hnode, hslash⟩
    refine ⟨.file id, ⟨place, hresolve, ?_⟩, rfl⟩
    rw [hnode, hslash]
    rfl

theorem Keeps.lookupFile (hkeeps : disk.Keeps other) (h : disk.lookupFile path = .ok id) :
    other.lookupFile path = .ok id := by
  obtain ⟨place, hresolve, hnode, hslash⟩ := lookupFile_eq_ok_iff.mp h
  exact lookupFile_eq_ok_iff.mpr ⟨place, hkeeps.resolve hresolve, hkeeps _ _ hnode, hslash⟩

/-- What is in files has no part in their names. -/
theorem keeps_modify (disk : Disk) (id : FileId) (change : SparseBytes → SparseBytes) :
    disk.Keeps (disk.modify id change) := fun _ _ h => h

/-! ### Changing a file -/

def Bounded (disk : Disk) : Prop := ∀ id, disk.length id ≤ maxOffset

/-- Nothing is different but the bytes of one file. -/
structure ChangesOnly (id : FileId) (disk after : Disk) : Prop where
  node?_eq : ∀ place, after.node? place = disk.node? place
  isFile_iff : ∀ asked, after.IsFile asked ↔ disk.IsFile asked
  data_eq : ∀ asked, asked ≠ id → after.data asked = disk.data asked
  sizeLimit_eq : after.sizeLimit = disk.sizeLimit
  bounded : disk.Bounded → after.Bounded

namespace ChangesOnly

theorem refl (id : FileId) (disk : Disk) : ChangesOnly id disk disk :=
  ⟨fun _ => rfl, fun _ => .rfl, fun _ _ => rfl, rfl, fun h => h⟩

theorem trans {first second third : Disk} (h : ChangesOnly id first second)
    (h' : ChangesOnly id second third) : ChangesOnly id first third where
  node?_eq place := (h'.node?_eq place).trans (h.node?_eq place)
  isFile_iff asked := (h'.isFile_iff asked).trans (h.isFile_iff asked)
  data_eq asked hne := (h'.data_eq asked hne).trans (h.data_eq asked hne)
  sizeLimit_eq := h'.sizeLimit_eq.trans h.sizeLimit_eq
  bounded hbounded := h'.bounded (h.bounded hbounded)

theorem keeps (h : ChangesOnly id disk other) : disk.Keeps other := by
  intro place node hnode
  rw [h.node?_eq, hnode]

end ChangesOnly

/-- A change after which the file is not too long. -/
theorem changesOnly_modify (disk : Disk) (id : FileId) (change : SparseBytes → SparseBytes)
    (hsize : (disk.data id).size ≤ maxOffset → (change (disk.data id)).size ≤ maxOffset) :
    ChangesOnly id disk (disk.modify id change) where
  node?_eq _ := rfl
  isFile_iff asked := by simp [IsFile, modify]
  data_eq asked hne := disk.data_modify_of_ne hne change
  sizeLimit_eq := rfl
  bounded hbounded := by
    intro asked
    by_cases hfile : asked = id ∧ disk.IsFile id
    · obtain ⟨rfl, hfile⟩ := hfile
      rw [length, data_modify disk hfile]
      exact hsize (hbounded asked)
    · have hdata : (disk.modify id change).data asked = disk.data asked := by
        by_cases heq : asked = id
        · subst heq
          have hout : ¬ asked < disk.contents.size := fun h => hfile ⟨rfl, h⟩
          simp [modify, data, Array.getD_eq_getD_getElem?, hout]
        · exact disk.data_modify_of_ne heq change
      rw [length, hdata]
      exact hbounded asked

theorem changesOnly_write {offset : Nat} {bytes : Packed}
    (h : disk.write id offset bytes = .ok other) : ChangesOnly id disk other := by
  obtain ⟨hplace, rfl⟩ := (disk.write_eq_ok_iff id offset bytes other).mp h
  have hroom := (disk.writeRefusal?_eq_none_iff offset bytes.size).mp hplace
  refine changesOnly_modify disk id _ fun hsize => ?_
  rw [SparseBytes.size_overwrite]
  split <;> omega

theorem changesOnly_setLength {length : Nat} (h : disk.setLength id length = .ok other) :
    ChangesOnly id disk other := by
  obtain ⟨hlength, rfl⟩ := (disk.setLength_eq_ok_iff id length other).mp h
  exact changesOnly_modify disk id _ fun _ =>
    ((disk.lengthRefusal?_eq_none_iff length).mp hlength).1

/-- Where only the bytes of a file are different every path names what it named. -/
theorem ChangesOnly.lookupFile_iff (h : ChangesOnly id disk other) {found : FileId} :
    other.lookupFile path = .ok found ↔ disk.lookupFile path = .ok found := by
  have hback : other.Keeps disk := by
    intro place node hnode
    rw [← h.node?_eq, hnode]
  exact ⟨hback.lookupFile, h.keeps.lookupFile⟩

theorem ChangesOnly.content_eq (h : ChangesOnly id disk other) {asked : FileId} (hne : asked ≠ id) :
    other.content asked = disk.content asked :=
  congrArg SparseBytes.toBytes (h.data_eq asked hne)

theorem exists_write (id : FileId) {offset : Nat} {bytes : Packed} {n : Nat}
    (hin : offset + bytes.size ≤ n) (hreach : n ≤ maxOffset) (hlimit : n ≤ disk.sizeLimit) :
    ∃ after, disk.write id offset bytes = .ok after := by
  refine ⟨_, (disk.write_eq_ok_iff id offset bytes _).mpr ⟨?_, rfl⟩⟩
  exact (disk.writeRefusal?_eq_none_iff offset bytes.size).mpr
    (.inr ⟨Nat.le_trans hin hreach, Nat.le_trans hin hlimit⟩)

theorem length_le_of_write (hfile : disk.IsFile id) {offset : Nat} {bytes : Packed}
    (h : disk.write id offset bytes = .ok other) : disk.length id ≤ other.length id := by
  rw [length_eq, length_eq, disk.content_write hfile h, Bytes.length_overwrite]
  split <;> omega

/-! ### Making a file -/

/-- The disk with an empty file at a place where there was nothing. -/
def withNew (disk : Disk) (place : List String) : Disk :=
  { disk with
    entries := disk.entries ++ [(place, .file disk.contents.size)]
    contents := disk.contents.push .empty }

theorem node?_withNew (disk : Disk) {place : List String} (h : disk.node? place = none)
    (asked : List String) :
    (disk.withNew place).node? asked
      = if asked = place then some (.file disk.contents.size) else disk.node? asked := by
  have hlookup : (disk.entries ++ [(place, Node.file disk.contents.size)]).lookup asked
      = (disk.entries.lookup asked).or ([(place, Node.file disk.contents.size)].lookup asked) :=
    List.lookup_append
  unfold node? at h ⊢
  rw [withNew, hlookup]
  split at h
  · cases h
  · next hfree =>
    split
    · next hfixed =>
      have hne : asked ≠ place := fun heq => hfree (heq ▸ hfixed)
      rw [if_neg hne]
    · split
      · next heq =>
        rw [heq, h, List.lookup_cons_self]
        rfl
      · next hne =>
        rw [List.lookup_cons, beq_false_of_ne hne]
        exact Option.or_none

theorem data_withNew (disk : Disk) (place : List String) (asked : FileId) :
    (disk.withNew place).data asked
      = if asked = disk.contents.size then .empty else disk.data asked := by
  split
  · next hnew => simp [withNew, data, Array.getD_eq_getD_getElem?, hnew]
  · next hold => simp [withNew, data, Array.getD_eq_getD_getElem?, Array.getElem?_push, hold]

theorem keeps_withNew (disk : Disk) {place : List String} (h : disk.node? place = none) :
    disk.Keeps (disk.withNew place) := by
  intro asked node hnode
  rw [node?_withNew disk h, if_neg, hnode]
  rintro rfl
  rw [h] at hnode
  cases hnode

/-- Making a file empties the one that is there, or adds one. -/
theorem create_inv (h : disk.create path = .ok (id, made)) :
    ∃ place, disk.resolve path = .ok place ∧ endsWithSlash path = false
      ∧ (disk.node? place = some (.file id) ∧ made = disk.setContent id .empty
        ∨ disk.node? place = none ∧ id = disk.contents.size ∧ made = disk.withNew place) := by
  unfold create at h
  rw [bind_eq_ok_iff] at h
  obtain ⟨⟨before, last⟩, happroach, h⟩ := h
  dsimp only at h
  split at h
  · cases h
  · next hname =>
    rw [bind_eq_ok_iff] at h
    obtain ⟨place, henter, h⟩ := h
    have hresolve : disk.resolve path = .ok place := by
      rw [resolve, bind_eq_ok_iff]
      exact ⟨(before, last), happroach, henter⟩
    have hslash : endsWithSlash path = false := by
      rw [Bool.or_eq_true] at hname
      exact Bool.eq_false_iff.mpr fun h => hname (.inr h)
    refine ⟨place, hresolve, hslash, ?_⟩
    split at h
    · cases h
    · next found hnode =>
      cases h
      exact .inl ⟨hnode, rfl⟩
    · next hnode =>
      cases h
      exact .inr ⟨hnode, rfl, rfl⟩

/-- Making a file leaves every name. -/
theorem keeps_create (h : disk.create path = .ok (id, made)) : disk.Keeps made := by
  obtain ⟨place, -, -, ⟨-, rfl⟩ | ⟨hnode, -, rfl⟩⟩ := create_inv h
  · exact keeps_modify disk id _
  · exact keeps_withNew disk hnode

/-- **A file that was made is found under its path.** -/
theorem lookupFile_create (h : disk.create path = .ok (id, made)) :
    made.lookupFile path = .ok id := by
  have hkeeps := keeps_create h
  obtain ⟨place, hresolve, hslash, hfile⟩ := create_inv h
  refine lookupFile_eq_ok_iff.mpr ⟨place, hkeeps.resolve hresolve, ?_, hslash⟩
  obtain ⟨hnode, rfl⟩ | ⟨hnode, rfl, rfl⟩ := hfile
  · exact hkeeps _ _ hnode
  · rw [node?_withNew disk hnode, if_pos rfl]

/-- Every name leads to a file that was made. -/
def Sound (disk : Disk) : Prop := ∀ place id, disk.node? place = some (.file id) → disk.IsFile id

theorem sound_empty : ({} : Disk).Sound := by
  intro place id hnode
  unfold node? at hnode
  split at hnode
  · cases hnode
  · cases hnode

theorem Sound.isFile (hsound : disk.Sound) (h : disk.lookupFile path = .ok id) : disk.IsFile id := by
  obtain ⟨place, -, hnode, -⟩ := lookupFile_eq_ok_iff.mp h
  exact hsound place id hnode

@[simp] theorem isFile_modify (disk : Disk) (id : FileId) (change : SparseBytes → SparseBytes)
    (asked : FileId) : (disk.modify id change).IsFile asked ↔ disk.IsFile asked := by
  simp [IsFile, modify]

theorem Sound.modify (hsound : disk.Sound) (id : FileId) (change : SparseBytes → SparseBytes) :
    (disk.modify id change).Sound := by
  intro place asked hnode
  exact (isFile_modify disk id change asked).mpr (hsound place asked hnode)

theorem Sound.create (hsound : disk.Sound) (h : disk.create path = .ok (id, made)) : made.Sound := by
  obtain ⟨place, -, -, ⟨-, rfl⟩ | ⟨hfree, -, rfl⟩⟩ := create_inv h
  · exact hsound.modify id _
  · intro asked found hnode
    have hsize : (disk.withNew place).contents.size = disk.contents.size + 1 := Array.size_push _
    rw [node?_withNew disk hfree] at hnode
    rw [IsFile, hsize]
    split at hnode
    · cases hnode
      exact Nat.lt_succ_self _
    · exact Nat.lt_succ_of_lt (hsound asked found hnode)

theorem ChangesOnly.sound (h : ChangesOnly id disk other) (hsound : disk.Sound) : other.Sound := by
  intro place asked hnode
  rw [h.node?_eq] at hnode
  exact (h.isFile_iff asked).mpr (hsound place asked hnode)

theorem Bounded.create (hbounded : disk.Bounded) (h : disk.create path = .ok (id, made)) :
    made.Bounded := by
  obtain ⟨place, -, -, ⟨-, rfl⟩ | ⟨-, -, rfl⟩⟩ := create_inv h
  · exact (changesOnly_modify disk id _ fun _ => Nat.zero_le _).bounded hbounded
  · intro asked
    rw [length, data_withNew]
    split
    · exact Nat.zero_le _
    · exact hbounded asked

/-- Only a file that was made holds something. -/
theorem isFile_of_length_pos (h : 0 < disk.length id) : disk.IsFile id := by
  rcases Nat.lt_or_ge id disk.contents.size with hfile | hout
  · exact hfile
  · have hdata : disk.data id = .empty := by
      simp [data, Array.getD_eq_getD_getElem?, hout]
    rw [length, hdata] at h
    exact absurd h (Nat.lt_irrefl 0)

theorem content_create (hsound : disk.Sound) (h : disk.create path = .ok (id, made)) :
    made.content id = [] := by
  obtain ⟨place, -, -, ⟨hnode, rfl⟩ | ⟨-, rfl, rfl⟩⟩ := create_inv h
  · rw [content_setContent disk (hsound place id hnode), SparseBytes.toBytes_empty]
  · rw [content, data_withNew, if_pos rfl, SparseBytes.toBytes_empty]

theorem data_create_of_ne (h : disk.create path = .ok (id, made)) {asked : FileId}
    (hne : asked ≠ id) : made.data asked = disk.data asked := by
  obtain ⟨place, -, -, ⟨-, rfl⟩ | ⟨-, rfl, rfl⟩⟩ := create_inv h
  · exact disk.data_modify_of_ne hne _
  · rw [data_withNew, if_neg hne]

theorem sizeLimit_create (h : disk.create path = .ok (id, made)) :
    made.sizeLimit = disk.sizeLimit := by
  obtain ⟨place, -, -, ⟨-, rfl⟩ | ⟨-, -, rfl⟩⟩ := create_inv h
  · rfl
  · rfl

/-- A file that was made is emptied where it is made again. -/
theorem create_again (h : disk.create path = .ok (id, made)) (hkeeps : made.Keeps other) :
    other.create path = .ok (id, other.setContent id .empty) := by
  have hfound := hkeeps.lookupFile (lookupFile_create h)
  have hways : disk.Keeps other := fun place node hnode => hkeeps place node (keeps_create h place node hnode)
  obtain ⟨place, hresolve, hnode, -⟩ := lookupFile_eq_ok_iff.mp hfound
  rw [resolve, bind_eq_ok_iff] at hresolve
  obtain ⟨way, happroach, henter⟩ := hresolve
  rw [create, bind_eq_ok_iff] at h ⊢
  obtain ⟨first, hfirst, h⟩ := h
  cases (hways.approach hfirst).symm.trans happroach
  refine ⟨way, happroach, ?_⟩
  dsimp only at h ⊢
  split at h
  · cases h
  · next hname =>
    rw [if_neg hname, bind_eq_ok_iff]
    refine ⟨place, henter, ?_⟩
    rw [hnode]
    rfl

/-- A file can be made at `path`, where there is nothing, or an empty file. -/
def Vacant (disk : Disk) (path : String) : Prop :=
  ∃ id made, disk.create path = .ok (id, made) ∧ disk.content id = []

/-! ### Files beside another one -/

/-- Every name leads where it led, and every file but one holds what it held. -/
structure Beside (id : FileId) (disk after : Disk) : Prop where
  keeps : disk.Keeps after
  isFile : ∀ asked, disk.IsFile asked → after.IsFile asked
  data_eq : ∀ asked, asked ≠ id → after.data asked = disk.data asked
  sizeLimit_eq : after.sizeLimit = disk.sizeLimit
  bounded : disk.Bounded → after.Bounded

theorem Beside.content_eq (h : Beside id disk other) {asked : FileId} (hne : asked ≠ id) :
    other.content asked = disk.content asked :=
  congrArg SparseBytes.toBytes (h.data_eq asked hne)

theorem Beside.trans {first second third : Disk} (h : Beside id first second) (h' : Beside id second third) :
    Beside id first third where
  keeps place node hnode := h'.keeps place node (h.keeps place node hnode)
  isFile asked hfile := h'.isFile asked (h.isFile asked hfile)
  data_eq asked hne := (h'.data_eq asked hne).trans (h.data_eq asked hne)
  sizeLimit_eq := h'.sizeLimit_eq.trans h.sizeLimit_eq
  bounded hbounded := h'.bounded (h.bounded hbounded)

theorem ChangesOnly.beside (h : ChangesOnly id disk other) : Beside id disk other :=
  ⟨h.keeps, fun asked => (h.isFile_iff asked).mpr, h.data_eq, h.sizeLimit_eq, h.bounded⟩

/-- **Making a file leaves every other one.** -/
theorem beside_create (h : disk.create path = .ok (id, made)) : Beside id disk made := by
  refine ⟨keeps_create h, fun asked hfile => ?_, fun asked => data_create_of_ne h, sizeLimit_create h,
    fun hbounded => hbounded.create h⟩
  obtain ⟨place, -, -, ⟨-, rfl⟩ | ⟨-, -, rfl⟩⟩ := create_inv h
  · exact (isFile_modify disk id _ asked).mpr hfile
  · have hsize : (disk.withNew place).contents.size = disk.contents.size + 1 := Array.size_push _
    rw [IsFile, hsize]
    exact Nat.lt_succ_of_lt hfile

/-- A file that is made is another one than those that are found under other paths. -/
theorem create_ne (h : disk.create path = .ok (id, made)) {asked : FileId}
    (hfile : disk.IsFile asked) (hapart : ∀ found, disk.lookupFile path = .ok found → found ≠ asked) :
    id ≠ asked := by
  obtain ⟨place, hresolve, hslash, ⟨hnode, -⟩ | ⟨-, rfl, -⟩⟩ := create_inv h
  · exact hapart id (lookupFile_eq_ok_iff.mpr ⟨place, hresolve, hnode, hslash⟩)
  · exact (Nat.ne_of_lt hfile).symm

theorem size_of_lookupFile (h : disk.lookupFile path = .ok id) :
    disk.size path = .ok (disk.length id) := by
  unfold lookupFile at h
  rw [bind_eq_ok_iff] at h
  obtain ⟨node, hlookup, h⟩ := h
  rw [size, bind_eq_ok_iff]
  refine ⟨node, hlookup, ?_⟩
  split at h
  · cases h
  · cases h
    rfl

/-- At a `Vacant` path no size is found but zero. -/
theorem Vacant.size_ne (h : disk.Vacant path) (n : Nat) : disk.size path ≠ .ok (n + 1) := by
  obtain ⟨id, made, hcreate, hempty⟩ := h
  intro hsize
  obtain ⟨place, hresolve, hslash, hfile⟩ := create_inv hcreate
  obtain ⟨hnode, -⟩ | ⟨hnode, -, -⟩ := hfile
  · have hlookup := lookupFile_eq_ok_iff.mpr ⟨place, hresolve, hnode, hslash⟩
    rw [size_of_lookupFile hlookup, length_eq, hempty] at hsize
    cases hsize
  · unfold size lookup at hsize
    simp only [bind_eq_ok_iff] at hsize
    obtain ⟨node, ⟨found, hfound, hthrow⟩, -⟩ := hsize
    cases hresolve.symm.trans hfound
    rw [hnode] at hthrow
    cases hthrow

end Disk

end PartitionImage
