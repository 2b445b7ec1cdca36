import GuestMachine.Command.Pack
import GuestMachine.Proofs.Host
import GuestMachine.Proofs.Host.FileSystem
import GuestMachine.Proofs.Image
import Mathlib

/-!
# Packing

What the options of the packing command ask for, in whatever order they stand, and that the command
does just that: it writes the image of the segments it was given, or it fails and leaves the file
system alone.
-/

namespace GuestMachine.Pack

open Text.Numeral (word?)

/-! ## Options -/

/-- Names and values in turn. -/
def spelled (pairs : List (String × String)) : List String :=
  pairs.flatMap fun pair => [pair.1, pair.2]

/-- The arguments that stand where the name of an option is expected. -/
def names : List String → List String
  | [] => []
  | [name] => [name]
  | name :: _ :: rest => name :: names rest

/-- The value of the last option with one of the given names. -/
def lastValue (names : List String) : List (String × String) → Option String
  | [] => none
  | (name, value) :: rest => (lastValue names rest).or (if name ∈ names then some value else none)

/-- The names of the options that say what to pack and where to. -/
def packing : List String := ["--text", "--rodata", "--data", "--bss", "-o", "--output"]

/-- Every size that is given is a number, also one that another takes the place of. -/
def Numeric (pairs : List (String × String)) : Prop :=
  ∀ value, ("--bss", value) ∈ pairs → (word? value).isSome

/-- The options with those given in pairs. -/
def settled (o : Options) (pairs : List (String × String)) : Options where
  text := (lastValue ["--text"] pairs).or o.text
  rodata := (lastValue ["--rodata"] pairs).or o.rodata
  data := (lastValue ["--data"] pairs).or o.data
  bss := ((lastValue ["--bss"] pairs).bind word?).getD o.bss
  output := (lastValue ["-o", "--output"] pairs).or o.output
  inspect := (lastValue ["--inspect"] pairs).or o.inspect

variable {pairs : List (String × String)} {o o' : Options}

theorem names_spelled (pairs : List (String × String)) :
    names (spelled pairs) = pairs.map Prod.fst := by
  induction pairs with
  | nil => rfl
  | cons pair rest ih =>
    rw [List.map_cons, ← ih]
    rfl

theorem mem_of_lastValue {given : List String} {value : String}
    (found : lastValue given pairs = some value) : ∃ name ∈ given, (name, value) ∈ pairs := by
  induction pairs with
  | nil => cases found
  | cons pair rest ih =>
    rw [lastValue, Option.or_eq_some_iff] at found
    rcases found with later | ⟨-, here⟩
    · obtain ⟨name, wanted, member⟩ := ih later
      exact ⟨name, wanted, List.mem_cons_of_mem _ member⟩
    · split at here
      · next wanted =>
        cases here
        exact ⟨pair.1, wanted, List.mem_cons_self⟩
      · cases here

theorem Numeric.word_of_lastValue {value : String} (numeric : Numeric pairs)
    (found : lastValue ["--bss"] pairs = some value) : ∃ bss, word? value = some bss := by
  obtain ⟨name, wanted, member⟩ := mem_of_lastValue found
  rw [List.mem_singleton.mp wanted] at member
  exact Option.isSome_iff_exists.mp (numeric value member)

/-- Reading one option after the other is settling them one after the other. -/
theorem settled_cons {name value : String} {rest : List (String × String)}
    (numeric : Numeric rest) :
    settled o ((name, value) :: rest) = settled (settled o [(name, value)]) rest := by
  have size : ((lastValue ["--bss"] ((name, value) :: rest)).bind word?).getD o.bss =
      ((lastValue ["--bss"] rest).bind word?).getD
        (((lastValue ["--bss"] [(name, value)]).bind word?).getD o.bss) := by
    rw [lastValue]
    cases later : lastValue ["--bss"] rest with
    | none => rfl
    | some text =>
      obtain ⟨bss, number⟩ := numeric.word_of_lastValue later
      simp [number]
  simp only [settled, size]
  simp only [lastValue, Option.or_assoc, Option.none_or]

theorem parse_pair {name value : String} {rest : List String}
    (known : name ∈ "--inspect" :: packing) (numeric : name = "--bss" → (word? value).isSome) :
    parse o (name :: value :: rest) = parse (settled o [(name, value)]) rest := by
  simp only [packing, List.mem_cons, List.not_mem_nil, or_false] at known
  rcases known with rfl | rfl | rfl | rfl | rfl | rfl | rfl
  case inr.inr.inr.inr.inl =>
    obtain ⟨bss, number⟩ := Option.isSome_iff_exists.mp (numeric rfl)
    simp [parse, settled, lastValue, number]
  all_goals simp [parse, settled, lastValue]

/-- The command can read the options. -/
structure Legal (pairs : List (String × String)) : Prop where
  known : ∀ pair ∈ pairs, pair.1 ∈ "--inspect" :: packing
  numeric : Numeric pairs

theorem Legal.cons {name value : String} (legal : Legal pairs)
    (known : name ∈ "--inspect" :: packing) (numeric : name = "--bss" → (word? value).isSome) :
    Legal ((name, value) :: pairs) where
  known := List.forall_mem_cons.mpr ⟨known, legal.known⟩
  numeric text member := by
    rcases List.mem_cons.mp member with same | later
    · obtain ⟨rfl, rfl⟩ := Prod.mk.inj same
      exact numeric rfl
    · exact legal.numeric text later

theorem Legal.tail {pair : String × String} (legal : Legal (pair :: pairs)) : Legal pairs where
  known := (List.forall_mem_cons.mp legal.known).2
  numeric text member := legal.numeric text (List.mem_cons_of_mem _ member)

/-- Options that can be read are settled, the last of each name counting. -/
theorem parse_spelled (legal : Legal pairs) (o : Options) :
    parse o (spelled pairs) = .ok (settled o pairs) := by
  induction pairs generalizing o with
  | nil => rfl
  | cons pair rest ih =>
    obtain ⟨name, value⟩ := pair
    rw [settled_cons legal.tail.numeric, ← ih legal.tail]
    refine parse_pair (legal.known _ List.mem_cons_self) ?_
    rintro rfl
    exact legal.numeric value List.mem_cons_self

theorem exists_spelled_of_parse {args : List String} (read : parse o args = .ok o') :
    ∃ pairs, args = spelled pairs ∧ Legal pairs := by
  fun_induction parse o args with
  | case1 o => exact ⟨[], rfl, by simp, by simp [Numeric]⟩
  | case2 | case7 | case11 => cases read
  | case6 o value rest bss number ih =>
    obtain ⟨pairs, rfl, legal⟩ := ih read
    exact ⟨("--bss", value) :: pairs, rfl, legal.cons (by simp [packing]) (by simp [number])⟩
  | case3 o value rest ih | case4 o value rest ih | case5 o value rest ih | case8 o value rest ih
  | case9 o value rest ih | case10 o value rest ih =>
    obtain ⟨pairs, rfl, legal⟩ := ih read
    exact ⟨(_, value) :: pairs, rfl, legal.cons (by simp [packing]) (by simp)⟩

/-! ## Requests -/

/-- The bytes of a segment are those of its file; there are none if it has no file. -/
def Supplies (files : FileSystem) (path : Option String) (bytes : Bytes) : Prop :=
  match path with
  | none => bytes = []
  | some path => files.readFile path = .ok bytes

/-- What options ask for: an image of segments that can be read, and that is not blank, at a place
where a file can be written. Of a repeated option the last one counts. -/
structure Requests (pairs : List (String × String)) (files : FileSystem) (output : String)
    (place : Path) (image : Image) : Prop where
  known : ∀ pair ∈ pairs, pair.1 ∈ packing
  text : ∃ path, lastValue ["--text"] pairs = some path ∧ files.readFile path = .ok image.text
  rodata : Supplies files (lastValue ["--rodata"] pairs) image.rodata
  data : Supplies files (lastValue ["--data"] pairs) image.data
  bss : match lastValue ["--bss"] pairs with
    | none => image.bss = 0
    | some value => word? value = some image.bss
  target : lastValue ["-o", "--output"] pairs = some output
  writable : files.Writable output place
  filled : image ≠ Image.blank

variable {host : Host} {files : FileSystem} {output : String} {place : Path} {image : Image}

theorem readSegment_eq_ok {path : Option String} {bytes : Bytes} :
    readSegment host path = .ok bytes ↔ Supplies host.files path bytes := by
  cases path with
  | none => simp [readSegment, Supplies, eq_comm]
  | some path =>
    simp only [readSegment, Supplies]
    cases host.files.readFile path <;> simp

theorem assemble_eq_ok {text : String} :
    assemble host o text = .ok image ↔ host.files.readFile text = .ok image.text ∧
      Supplies host.files o.rodata image.rodata ∧ Supplies host.files o.data image.data ∧
      image.bss = o.bss := by
  unfold assemble
  constructor
  · intro assembled
    obtain ⟨text, textRead, assembled⟩ := bind_eq_ok.mp assembled
    obtain ⟨rodata, rodataRead, assembled⟩ := bind_eq_ok.mp assembled
    obtain ⟨data, dataRead, assembled⟩ := bind_eq_ok.mp assembled
    obtain rfl := Except.ok.inj assembled
    exact ⟨readSegment_eq_ok.mp textRead, readSegment_eq_ok.mp rodataRead,
      readSegment_eq_ok.mp dataRead, rfl⟩
  · rintro ⟨text, rodata, data, bss⟩
    refine bind_eq_ok.mpr ⟨_, readSegment_eq_ok.mpr text, ?_⟩
    refine bind_eq_ok.mpr ⟨_, readSegment_eq_ok.mpr rodata, ?_⟩
    refine bind_eq_ok.mpr ⟨_, readSegment_eq_ok.mpr data, ?_⟩
    rw [← bss]
    rfl

/-! ## Outcomes -/

/-- The command has failed without touching a file. -/
def Refuses (host : Host) (report : Report) : Prop :=
  report.status = some 1 ∧ report.host.files = host.files

theorem refuses_failed (host : Host) (message : String) :
    Refuses host (.failed host message) := ⟨rfl, Host.files_log _ _ _⟩

theorem refuses_report (e : OptionError) (host : Host) (usage : String) :
    Refuses host (e.report host usage) := by
  cases e with
  | unexpected argument => exact ⟨rfl, Host.files_log _ _ _⟩
  | missingValue option => exact ⟨rfl, Host.files_log _ _ _⟩
  | notNumber subject value => exact ⟨rfl, Host.files_log _ _ _⟩

/-- Options that cannot be read are refused. -/
theorem refuses_of_parse (program : String) (host : Host) {first : String} {rest : List String}
    {e : OptionError} (noHelp : asksForHelp first = false)
    (read : parse {} (first :: rest) = .error e) :
    Refuses host (run program (first :: rest) host) := by
  rw [run, if_neg (by simp [noHelp]), read]
  exact refuses_report e host _

theorem lastValue_eq_none {given : List String} (absent : ∀ pair ∈ pairs, pair.1 ∉ given) :
    lastValue given pairs = none := by
  cases found : lastValue given pairs with
  | none => rfl
  | some value =>
    obtain ⟨name, wanted, member⟩ := mem_of_lastValue found
    exact absurd wanted (absent _ member)

/-- Options that only say what to pack ask for no inspection. -/
theorem inspect_settled (known : ∀ pair ∈ pairs, pair.1 ∈ packing) :
    (settled {} pairs).inspect = none := by
  have absent : lastValue ["--inspect"] pairs = none := by
    apply lastValue_eq_none
    intro pair member inspects
    have packs := known pair member
    rw [List.mem_singleton.mp inspects] at packs
    simp [packing] at packs
  simp [settled, absent]

theorem bss_settled (numeric : Numeric pairs) :
    (match lastValue ["--bss"] pairs with
    | none => image.bss = 0
    | some value => word? value = some image.bss) ↔ image.bss = (settled {} pairs).bss := by
  unfold settled
  cases found : lastValue ["--bss"] pairs with
  | none => rfl
  | some value =>
    obtain ⟨bss, number⟩ := numeric.word_of_lastValue found
    simp [number, eq_comm]

theorem execute_settled (host : Host) (known : ∀ pair ∈ pairs, pair.1 ∈ packing) :
    execute host (settled {} pairs) =
      match lastValue ["--text"] pairs, lastValue ["-o", "--output"] pairs with
      | none, _ => .failed host "--text is required"
      | some _, none => .failed host "--output is required"
      | some text, some output => pack host (settled {} pairs) text output := by
  have text : (settled {} pairs).text = lastValue ["--text"] pairs := Option.or_none
  have output : (settled {} pairs).output = lastValue ["-o", "--output"] pairs := Option.or_none
  unfold execute
  rw [inspect_settled known, text, output]
  cases lastValue ["--text"] pairs with
  | none => rfl
  | some text => cases lastValue ["-o", "--output"] pairs <;> rfl

/-- The command does nothing but what is requested. -/
theorem pack_cases {text : String} (known : ∀ pair ∈ pairs, pair.1 ∈ packing)
    (numeric : Numeric pairs)
    (given : lastValue ["--text"] pairs = some text)
    (target : lastValue ["-o", "--output"] pairs = some output) :
    Refuses host (pack host (settled {} pairs) text output) ∨
      ∃ place image, Requests pairs host.files output place image := by
  unfold pack
  cases assembled : assemble host (settled {} pairs) text with
  | error message => exact .inl (refuses_failed host message)
  | ok image =>
    obtain ⟨textRead, rodataRead, dataRead, bss⟩ := assemble_eq_ok.mp assembled
    simp only [settled, Option.or_none] at rodataRead dataRead
    dsimp only
    unfold Image.save
    cases empty : image.isEmpty with
    | true => exact .inl (refuses_failed host _)
    | false =>
      by_cases writable : ∃ place, host.files.Writable output place
      · obtain ⟨place, writable⟩ := writable
        refine .inr ⟨place, image, known, ⟨text, given, textRead⟩, rodataRead, dataRead,
          (bss_settled numeric).mpr bss, target, writable, ?_⟩
        rintro rfl
        cases empty
      · obtain ⟨e, failed⟩ := FileSystem.writeFile_of_not_writable
          (fun place writes => writable ⟨place, writes⟩) image.toBytes
        rw [failed]
        exact .inl (refuses_failed host _)

theorem legal_of_packing (known : ∀ pair ∈ pairs, pair.1 ∈ packing) (numeric : Numeric pairs) :
    Legal pairs := ⟨fun pair member => List.mem_cons_of_mem _ (known pair member), numeric⟩

theorem run_spelled (program : String) (host : Host)
    (known : ∀ pair ∈ pairs, pair.1 ∈ packing) (numeric : Numeric pairs) (given : pairs ≠ []) :
    run program (spelled pairs) host = execute host (settled {} pairs) := by
  have read := parse_spelled (legal_of_packing known numeric) {}
  cases pairs with
  | nil => exact absurd rfl given
  | cons pair rest =>
    have noHelp : ∀ name ∈ packing, asksForHelp name = false := by decide
    have first : spelled (pair :: rest) = pair.1 :: pair.2 :: spelled rest := rfl
    rw [first] at read ⊢
    rw [run, if_neg (by simp [noHelp _ (known pair List.mem_cons_self)]), read]

/-- A command that neither helps nor inspects refuses, or its options request what can be done. -/
theorem run_cases (program : String) {args : List String} (host : Host)
    (noHelp : ∀ first ∈ args.head?, asksForHelp first = false)
    (noInspect : "--inspect" ∉ names args) :
    Refuses host (run program args host) ∨ ∃ pairs output place image,
      args = spelled pairs ∧ Requests pairs host.files output place image ∧ Numeric pairs := by
  cases args with
  | nil => exact .inl ⟨rfl, rfl⟩
  | cons first rest =>
    cases read : parse {} (first :: rest) with
    | error e => exact .inl (refuses_of_parse program host (noHelp first rfl) read)
    | ok o =>
      obtain ⟨pairs, args, legal⟩ := exists_spelled_of_parse read
      rw [args] at noInspect ⊢
      have known : ∀ pair ∈ pairs, pair.1 ∈ packing := by
        intro pair member
        rw [names_spelled] at noInspect
        refine (List.mem_cons.mp (legal.known pair member)).resolve_left fun inspects => ?_
        exact noInspect (inspects ▸ List.mem_map_of_mem member)
      have given : pairs ≠ [] := by
        rintro rfl
        cases args
      rw [run_spelled program host known legal.numeric given, execute_settled host known]
      cases text : lastValue ["--text"] pairs with
      | none => exact .inl (refuses_failed host _)
      | some path =>
        cases target : lastValue ["-o", "--output"] pairs with
        | none => exact .inl (refuses_failed host _)
        | some output =>
          refine (pack_cases known legal.numeric text target).imp_right ?_
          rintro ⟨place, image, requests⟩
          exact ⟨pairs, output, place, image, rfl, requests, legal.numeric⟩

theorem pack_of_save {text : String} (assembled : assemble host o text = .ok image)
    (saved : image.save host.files output = .ok files) :
    (pack host o text output).status = some 0 ∧ (pack host o text output).host.files = files := by
  simp only [pack, assembled, saved, Host.files_log, and_self]

/-- What is requested is done: the image is written to its place, and its name leads there. -/
theorem run_of_requests (program : String) (plain : host.files.Plain)
    (requests : Requests pairs host.files output place image) (numeric : Numeric pairs) :
    (run program (spelled pairs) host).status = some 0 ∧
      ∃ written, (run program (spelled pairs) host).host.files = written ∧ written.Plain ∧
        written.view = Function.update host.files.view place (some (some image.toBytes)) ∧
        written.place? output = .ok place := by
  obtain ⟨text, given, read⟩ := requests.text
  obtain ⟨written, wrote, plain', view, named⟩ :=
    FileSystem.writeFile_of_writable plain requests.writable image.toBytes
  have assembled : assemble host (settled {} pairs) text = .ok image := by
    refine assemble_eq_ok.mpr ⟨read, ?_, ?_, (bss_settled numeric).mp requests.bss⟩
    · simpa [settled] using requests.rodata
    · simpa [settled] using requests.data
  have saved : image.save host.files output = .ok written := by
    have filled : ¬image.isEmpty = true := fun empty => requests.filled (Image.isEmpty_iff.mp empty)
    rw [Image.save, if_neg filled, wrote]
  have nonempty : pairs ≠ [] := by
    rintro rfl
    cases given
  have ran : run program (spelled pairs) host = pack host (settled {} pairs) text output := by
    rw [run_spelled program host requests.known numeric nonempty,
      execute_settled host requests.known, given, requests.target]
  rw [ran]
  obtain ⟨status, files⟩ := pack_of_save assembled saved
  exact ⟨status, written, files, plain', view, named⟩

/-- The sizes of the segments of an image, a line for each. -/
def sizes (image : Image) : String :=
  "text   " ++ toString image.text.length ++ "\n" ++
  "rodata " ++ toString image.rodata.length ++ "\n" ++
  "data   " ++ toString image.data.length ++ "\n" ++
  "bss    " ++ toString image.bss.toNat ++ "\n"

theorem run_inspect (program path : String) (loaded : Image.load host.files path = .ok image) :
    run program ["--inspect", path] host = ⟨some 0, host.print .stdout (sizes image)⟩ := by
  have noHelp : ¬asksForHelp "--inspect" = true := by decide
  have asked : (settled {} [("--inspect", path)]).inspect = some path := by
    simp [settled, lastValue]
  have read : parse {} ["--inspect", path] = .ok (settled {} [("--inspect", path)]) :=
    parse_pair (by simp) (by simp)
  rw [run, if_neg noHelp, read]
  dsimp only
  rw [execute, asked]
  dsimp only
  rw [inspect, loaded]
  dsimp only
  unfold sizes
  rfl

theorem load_of_view (named : files.place? output = .ok place)
    (held : files.view place = some (some image.toBytes))
    (small : image.content.length < UInt64.size) : Image.load files output = .ok image := by
  unfold Image.load
  rw [FileSystem.readFile_of_place named, held]
  exact Image.ofBytes_toBytes (Image.wellFormed_of_lt small)

/-- The command packs what it was given. Options in any order that request something, every size
among them a number, have the image written to its place and nothing else changed. It is read back
as it was put together, as long as a word can count its bytes, and inspecting it prints its sizes.
With any other arguments that ask for neither help nor an inspection the command fails and leaves
all files as they were. -/
theorem packs_what_it_was_given (program : String) (args : List String)
    (plain : host.files.Plain) :
    let report := run program args host
    (∀ pairs output place image, args = spelled pairs →
      Requests pairs host.files output place image → Numeric pairs →
      report.status = some 0 ∧
      report.host.files.Plain ∧
      report.host.files.view =
        Function.update host.files.view place (some (some image.toBytes)) ∧
      (image.content.length < UInt64.size →
        Image.load report.host.files output = .ok image ∧
        ∀ inspector, run inspector ["--inspect", output] report.host =
          ⟨some 0, report.host.print .stdout (sizes image)⟩)) ∧
    ((∀ first ∈ args.head?, asksForHelp first = false) → "--inspect" ∉ names args →
      (∀ pairs output place image, args = spelled pairs →
        Requests pairs host.files output place image → ¬Numeric pairs) →
      report.status = some 1 ∧ report.host.files = host.files) := by
  intro report
  constructor
  · rintro pairs output place image rfl requests numeric
    obtain ⟨status, written, files, plain', view, named⟩ :=
      run_of_requests program plain requests numeric
    have files : report.host.files = written := files
    rw [files]
    refine ⟨status, plain', view, fun small => ?_⟩
    have held : written.view place = some (some image.toBytes) := by
      rw [view, Function.update_self]
    have loaded := load_of_view named held small
    refine ⟨loaded, fun inspector => run_inspect inspector output ?_⟩
    rw [files]
    exact loaded
  · intro noHelp noInspect nothing
    refine (run_cases program host noHelp noInspect).resolve_right ?_
    rintro ⟨pairs, output, place, image, rfl, requests, numeric⟩
    exact nothing pairs output place image rfl requests numeric

/-- A host with one file. -/
def withSegment : Host := { files := FileSystem.empty.withNew ["t"] [0x2A] }

theorem plain_withSegment : withSegment.files.Plain :=
  FileSystem.plain_withNew FileSystem.plain_empty (by decide) _

/-- Options that put an image in the place of its own text. -/
def ontoItself : List (String × String) :=
  [("-o", "o"), ("--bss", "1"), ("--text", "absent"), ("--bss", "+7"), ("--output", "t"),
    ("--text", "t")]

/-- The image is of the last text and the last size, and replaces the file that its text was read
from. A name without a value is refused. -/
theorem packs_what_it_was_given_withSegment :
    (run "pack" (spelled ontoItself) withSegment).status = some 0 ∧
    Image.load (run "pack" (spelled ontoItself) withSegment).host.files "t" =
      .ok ⟨[0x2A], [], [], 7⟩ ∧
    (run "pack" ["--text"] withSegment).status = some 1 := by
  have requests : Requests ontoItself withSegment.files "t" ["t"] ⟨[0x2A], [], [], 7⟩ := {
    known := by decide
    text := ⟨"t", by decide, by cbv⟩
    rodata := by cbv
    data := by cbv
    bss := by cbv
    target := by decide
    writable := ⟨by cbv, by decide⟩
    filled := by decide }
  have numeric : Numeric ontoItself := by
    intro value member
    have sizes : value = "1" ∨ value = "+7" := by simpa [ontoItself] using member
    rcases sizes with rfl | rfl <;> cbv
  have odd : ∀ pairs, ["--text"] ≠ spelled pairs := by
    intro pairs
    cases pairs <;> simp [spelled]
  obtain ⟨packs, -⟩ :=
    packs_what_it_was_given "pack" (spelled ontoItself) plain_withSegment
  obtain ⟨-, refuses⟩ := packs_what_it_was_given "pack" ["--text"] plain_withSegment
  obtain ⟨status, -, -, read⟩ := packs _ _ _ _ rfl requests numeric
  refine ⟨status, (read (by decide)).1, ?_⟩
  exact (refuses (by decide) (by decide) fun pairs _ _ _ same => absurd same (odd pairs)).1

/-- Options that give two sizes, the first of which is not a number. -/
def replacedSize : List (String × String) :=
  [("--bss", "x"), ("--bss", "1"), ("--text", "t"), ("-o", "o")]

/-- A size that is not a number is a mistake even if another takes its place. -/
theorem replaced_size_is_refused :
    Requests replacedSize withSegment.files "o" ["o"] ⟨[0x2A], [], [], 1⟩ ∧
      (run "pack" (spelled replacedSize) withSegment).status = some 1 := by
  have requests : Requests replacedSize withSegment.files "o" ["o"] ⟨[0x2A], [], [], 1⟩ := {
    known := by decide
    text := ⟨"t", by decide, by cbv⟩
    rodata := by cbv
    data := by cbv
    bss := by cbv
    target := by decide
    writable := ⟨by cbv, by decide⟩
    filled := by decide }
  have read : parse {} (spelled replacedSize) = .error (.notNumber "bss size" "x") := by cbv
  exact ⟨requests, (refuses_of_parse "pack" withSegment (by decide) read).1⟩

end GuestMachine.Pack
