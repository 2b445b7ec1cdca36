import GuestMachine.Host.FileSystem
import GuestMachine.Proofs.Faulting
import Mathlib.Logic.Function.Basic

/-!
# Whole files on the host

What the tree looks like from outside: each path is a directory, a file with its bytes, or nothing.
Reading and writing whole files through the names of paths is reading and updating that view, as
long as no two paths share the bytes of a file.
-/

namespace GuestMachine.FileSystem

variable {fs fs' : FileSystem} {text : String} {place : Path}

/-- What stands at a path: nothing, a directory, or a file with its bytes. -/
def view (fs : FileSystem) (path : Path) : Option (Option Bytes) :=
  (fs.entry? path).map fun
    | .directory => none
    | .file id => some (fs.bytesOf id)

/-- Every file in the tree has its bytes, and has them for itself. -/
structure Plain (fs : FileSystem) : Prop where
  stored : ∀ path id, fs.entry? path = some (.file id) → id < fs.contents.size
  apart : ∀ path other id, fs.entry? path = some (.file id) →
    fs.entry? other = some (.file id) → path = other

/-- The place in the tree that a text names for a file. -/
def place? (fs : FileSystem) (text : String) : Except HostError Path :=
  match fs.locate text with
  | .error e => .error e
  | .ok target =>
    match target.last with
    | .name n =>
      if target.slash then .error .isDirectory
      else if nameLimit < n.utf8ByteSize then .error .nameTooLong
      else .ok target.path
    | _ => .error .isDirectory

/-- A file is looked for once its directory is found; the length of its name counts only then. -/
theorem openFile_eq (fs : FileSystem) (text : String) {o : OpenOptions}
    (legal : o.refused? = none) :
    fs.openFile text o =
      match fs.locate text with
      | .error e => .error e
      | .ok target =>
        match target.last with
        | .name n =>
          if o.creating && target.slash then .error .isDirectory
          else if nameLimit < n.utf8ByteSize then .error .nameTooLong
          else
            match fs.entry? target.path with
            | some entry => fs.openExisting o target.slash entry
            | none => if o.creating then .ok (fs.openNew o target.path) else .error .noEntry
        | _ => fs.openExisting o target.slash .directory := by
  unfold openFile
  simp only [legal]
  cases zero : text.toList.any (· == Char.ofNat 0) with
  | true =>
    have refused : fs.locate text = .error .zeroInPath := by
      unfold locate
      rw [zero]
      rfl
    rw [refused]
    rfl
  | false =>
    cases found : fs.locate text with
    | error e => rfl
    | ok target =>
      obtain ⟨parent, last, slash⟩ := target
      cases last with
      | name n =>
        simp only [bind, Except.bind, lookup, throw, throwThe, MonadExceptOf.throw, pure,
          Except.pure, Bool.false_eq_true, if_false]
        split
        · rfl
        · by_cases long : nameLimit < n.utf8ByteSize
          · simp only [if_pos long]
          · cases fs.entry? (PathTarget.mk parent (.name n) slash).path <;> simp only [if_neg long]
      | here => rfl
      | above => rfl
      | root => rfl

theorem place?_eq_ok :
    fs.place? text = .ok place ↔ ∃ target n, fs.locate text = .ok target ∧
      target.last = .name n ∧ target.slash = false ∧ n.utf8ByteSize ≤ nameLimit ∧
      target.path = place := by
  unfold place?
  cases fs.locate text with
  | error e => simp
  | ok target =>
    obtain ⟨parent, last, slash⟩ := target
    cases last with
    | name n =>
      cases slash with
      | true => simp
      | false => simp [ite_eq_iff]
    | here => simp
    | above => simp
    | root => simp

/-- What is opened under the name of a place depends on what stands there. -/
theorem openFile_of_place {o : OpenOptions} (legal : o.refused? = none)
    (named : fs.place? text = .ok place) :
    fs.openFile text o =
      match fs.entry? place with
      | some entry => fs.openExisting o false entry
      | none => if o.creating then .ok (fs.openNew o place) else .error .noEntry := by
  obtain ⟨⟨parent, last, slash⟩, n, found, rfl, rfl, short, rfl⟩ := place?_eq_ok.mp named
  rw [openFile_eq _ _ legal, found]
  simp [Nat.not_lt_of_le short]

/-- No file is made under a name that leads to no place. -/
theorem openFile_of_no_place {o : OpenOptions} {e : HostError} (legal : o.refused? = none)
    (creating : o.creating = true) (may : o.createNew = false)
    (refused : fs.place? text = .error e) : fs.openFile text o = .error e := by
  unfold place? at refused
  rw [openFile_eq _ _ legal]
  cases found : fs.locate text with
  | error e' =>
    rw [found] at refused
    simpa using refused
  | ok target =>
    rw [found] at refused
    obtain ⟨parent, last, slash⟩ := target
    cases last with
    | name n =>
      cases slash with
      | true => simpa [creating] using refused
      | false =>
        have long : nameLimit < n.utf8ByteSize := by
          by_contra short
          simp [short] at refused
        simpa [long] using refused
    | here => simpa [openExisting, may, creating] using refused
    | above => simpa [openExisting, may, creating] using refused
    | root => simpa [openExisting, may, creating] using refused

/-- A named place is read as it is seen. -/
theorem readFile_of_place (named : fs.place? text = .ok place) :
    fs.readFile text =
      match fs.view place with
      | none => .error .noEntry
      | some none => .error .isDirectory
      | some (some bytes) => .ok bytes := by
  unfold readFile view
  rw [openFile_of_place rfl named]
  cases fs.entry? place with
  | none => rfl
  | some entry => cases entry <;> rfl

/-- The file system with a new file at a place. -/
def withNew (fs : FileSystem) (place : Path) (data : Bytes) : FileSystem :=
  ⟨fs.tree.insert place (.file fs.contents.size), fs.contents.push data⟩

/-- A file is written at the place that its name leads to, over what was there or as a new file. -/
theorem writeFile_eq (fs : FileSystem) (text : String) (data : Bytes) :
    fs.writeFile text data =
      match fs.place? text with
      | .error e => .error e
      | .ok place =>
        match fs.entry? place with
        | some .directory => .error .isDirectory
        | some (.file id) => .ok (fs.setBytes id data)
        | none => .ok (fs.withNew place data) := by
  unfold writeFile
  cases named : fs.place? text with
  | error e =>
    rw [openFile_of_no_place rfl rfl rfl named]
    rfl
  | ok place =>
    rw [openFile_of_place rfl named]
    dsimp only
    cases fs.entry? place with
    | none =>
      have replaced : (fs.contents.push []).setIfInBounds fs.contents.size data =
          fs.contents.push data := by
        simp [Array.setIfInBounds, Array.set_push]
      rw [withNew, ← replaced]
      rfl
    | some entry =>
      cases entry with
      | directory => rfl
      | file id =>
        have replaced : (fs.setBytes id []).setBytes id data = fs.setBytes id data := by
          simp [setBytes]
        exact congrArg Except.ok replaced

/-! ## Writing as an update of the view -/

/-- A file can be written under a name that leads to a place where no directory stands. -/
def Writable (fs : FileSystem) (text : String) (place : Path) : Prop :=
  fs.place? text = .ok place ∧ fs.entry? place ≠ some .directory

theorem walk_of_keeps {here parent : Path} {names : List String}
    (keeps : ∀ path, fs.entry? path = some .directory → fs'.entry? path = some .directory)
    (walked : fs.walk here names = .ok parent) : fs'.walk here names = .ok parent := by
  fun_induction walk fs here names with
  | case1 here => exact walked
  | case2 here rest ih =>
    rw [walk, if_pos rfl]
    exact ih walked
  | case3 here rest other ih =>
    rw [walk, if_neg other, if_pos rfl]
    exact ih walked
  | case4 => cases walked
  | case5 => cases walked
  | case6 => cases walked
  | case7 here n rest here' above short entered ih =>
    rw [walk, if_neg here', if_neg above, if_neg short, keeps _ entered]
    exact ih walked

theorem locate_of_keeps {target : PathTarget}
    (keeps : ∀ path, fs.entry? path = some .directory → fs'.entry? path = some .directory)
    (found : fs.locate text = .ok target) : fs'.locate text = .ok target := by
  unfold locate at found ⊢
  dsimp only at found ⊢
  split at found
  · cases found
  · next zero =>
    rw [if_neg zero]
    split at found
    · cases found
    · next empty =>
      rw [if_neg empty]
      split at found
      · cases found
      · next long =>
        rw [if_neg long]
        split at found
        · exact found
        · obtain ⟨parent, walked, reached⟩ := bind_eq_ok.mp found
          exact bind_eq_ok.mpr ⟨parent, walk_of_keeps keeps walked, reached⟩

/-- A name leads to the same place as long as no directory goes away. -/
theorem place?_of_keeps
    (keeps : ∀ path, fs.entry? path = some .directory → fs'.entry? path = some .directory)
    (named : fs.place? text = .ok place) : fs'.place? text = .ok place := by
  obtain ⟨target, n, found, rest⟩ := place?_eq_ok.mp named
  exact place?_eq_ok.mpr ⟨target, n, locate_of_keeps keeps found, rest⟩

theorem plain_empty : empty.Plain where
  stored path id found := by
    unfold entry? at found
    split at found <;> cases found
  apart path other id found := by
    unfold entry? at found
    split at found <;> cases found

theorem ne_root_of_place (named : fs.place? text = .ok place) : place ≠ [] := by
  obtain ⟨⟨parent, last, slash⟩, n, -, rfl, -, -, rfl⟩ := place?_eq_ok.mp named
  exact List.append_ne_nil_of_right_ne_nil parent (List.cons_ne_nil n [])

theorem entry?_withNew (below : place ≠ []) (data : Bytes) (path : Path) :
    entry? (fs.withNew place data) path =
      if path = place then some (.file fs.contents.size) else fs.entry? path := by
  unfold entry? withNew
  rw [Table.get?_insert]
  by_cases root : path = []
  · subst root
    simp [below.symm]
  · simp [root]

theorem bytesOf_withNew (fs : FileSystem) (place : Path) (data : Bytes) (id : Nat) :
    (fs.withNew place data).bytesOf id =
      if id = fs.contents.size then data else fs.bytesOf id := by
  unfold bytesOf withNew
  rw [Array.getD_eq_getD_getElem?, Array.getD_eq_getD_getElem?, Array.getElem?_push]
  split <;> rfl

theorem view_withNew (plain : fs.Plain) (below : place ≠ []) (data : Bytes) :
    (fs.withNew place data).view = Function.update fs.view place (some (some data)) := by
  funext path
  rw [Function.update_apply, view, entry?_withNew below]
  by_cases same : path = place
  · rw [if_pos same, if_pos same]
    simp [bytesOf_withNew]
  · rw [if_neg same, if_neg same, view]
    cases found : fs.entry? path with
    | none => rfl
    | some entry =>
      cases entry with
      | directory => rfl
      | file id =>
        have old : id ≠ fs.contents.size := Nat.ne_of_lt (plain.stored path id found)
        simp [bytesOf_withNew, old]

theorem plain_withNew (plain : fs.Plain) (below : place ≠ []) (data : Bytes) :
    (fs.withNew place data).Plain := by
  have size : (fs.withNew place data).contents.size = fs.contents.size + 1 :=
    Array.size_push _
  constructor
  · intro path id found
    rw [entry?_withNew below] at found
    rw [size]
    split at found
    · cases found
      exact Nat.lt_succ_self _
    · exact Nat.lt_succ_of_lt (plain.stored path id found)
  · intro path other id found found'
    rw [entry?_withNew below] at found found'
    split at found
    · cases found
      split at found'
      · simp_all
      · exact absurd (plain.stored other _ found') (Nat.lt_irrefl _)
    · split at found'
      · cases found'
        exact absurd (plain.stored path _ found) (Nat.lt_irrefl _)
      · exact plain.apart path other id found found'

theorem entry?_setBytes (fs : FileSystem) (id : Nat) (data : Bytes) (path : Path) :
    entry? (fs.setBytes id data) path = fs.entry? path := rfl

theorem bytesOf_setBytes {id : Nat} (stored : id < fs.contents.size) (data : Bytes)
    (other : Nat) :
    (fs.setBytes id data).bytesOf other = if other = id then data else fs.bytesOf other := by
  unfold bytesOf setBytes
  by_cases same : other = id
  · subst same
    simp [stored]
  · simp [same, Array.getD_eq_getD_getElem?, Array.getElem?_setIfInBounds_ne (Ne.symm same)]

theorem view_setBytes {id : Nat} (plain : fs.Plain) (held : fs.entry? place = some (.file id))
    (data : Bytes) :
    (fs.setBytes id data).view = Function.update fs.view place (some (some data)) := by
  have stored := plain.stored place id held
  funext path
  rw [Function.update_apply, view, entry?_setBytes]
  by_cases same : path = place
  · subst same
    simp [held, bytesOf_setBytes stored]
  · rw [if_neg same, view]
    cases found : fs.entry? path with
    | none => rfl
    | some entry =>
      cases entry with
      | directory => rfl
      | file other =>
        have differ : other ≠ id := by
          rintro rfl
          exact same (plain.apart path place other found held)
        simp [bytesOf_setBytes stored, differ]

theorem plain_setBytes (plain : fs.Plain) (id : Nat) (data : Bytes) :
    (fs.setBytes id data).Plain where
  stored path other found := by
    rw [show (fs.setBytes id data).contents.size = fs.contents.size from Array.size_setIfInBounds]
    exact plain.stored path other found
  apart := plain.apart

/-- Writing a file where one can be written makes it stand at its place and changes nothing else.
Its name leads to it afterwards. -/
theorem writeFile_of_writable (plain : fs.Plain) (writable : fs.Writable text place)
    (data : Bytes) :
    ∃ written, fs.writeFile text data = .ok written ∧ written.Plain ∧
      written.view = Function.update fs.view place (some (some data)) ∧
      written.place? text = .ok place := by
  obtain ⟨named, free⟩ := writable
  have below := ne_root_of_place named
  rw [writeFile_eq, named]
  dsimp only
  cases held : fs.entry? place with
  | none =>
    refine ⟨_, rfl, plain_withNew plain below data, view_withNew plain below data, ?_⟩
    refine place?_of_keeps (fun path directory => ?_) named
    have other : path ≠ place := by
      rintro rfl
      rw [held] at directory
      cases directory
    rw [entry?_withNew below, if_neg other, directory]
  | some entry =>
    cases entry with
    | directory => exact absurd held free
    | file id =>
      refine ⟨_, rfl, plain_setBytes plain id data, view_setBytes plain held data, ?_⟩
      refine place?_of_keeps (fun path directory => ?_) named
      rw [entry?_setBytes, directory]

/-- Nothing is written under a name where nothing can be. -/
theorem writeFile_of_not_writable (refused : ∀ place, ¬fs.Writable text place) (data : Bytes) :
    ∃ e, fs.writeFile text data = .error e := by
  rw [writeFile_eq]
  cases named : fs.place? text with
  | error e => exact ⟨e, rfl⟩
  | ok place =>
    have directory : fs.entry? place = some .directory := by
      by_contra free
      exact refused place ⟨named, free⟩
    refine ⟨.isDirectory, ?_⟩
    simp only [directory]

end GuestMachine.FileSystem
