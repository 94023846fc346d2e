import PeFacts.Proofs.Console.Unbracketed
import PeFacts.Proofs.Session
import PeFacts.Proofs.Signature.Table
import PeFacts.Scan

/-!
# What the console shows of a file

A cell may hold what a file says of itself only if no markup is active in it. `Literal` says of
something printed that all its markup is that of the renderer. Each table gets one lemma, and
`only_the_path_steers_the_console` puts them together: everything that is taken from the bytes of a
file is literal, and only the path stands in its cell as it is given.
-/

namespace PeFacts

namespace Console

open Markup (Quiet Unbracketed quiet_escape unbracketed_append)

/-! ## Literal output -/

/-- All cells of a row are quiet. -/
def QuietRow (row : List String) : Prop := ∀ cell ∈ row, Quiet cell

/-- The row that is printed of what is no image. -/
def notImageRow : List String := ["pe", "[yellow]not a PE image[/yellow]"]

/-- The line that is printed of this many problems. -/
def problemText (count : Nat) : String := s!"[yellow]{count} parse problem(s) recorded[/yellow]"

/-- No markup but that of the renderer is active. -/
inductive Literal : Printed → Prop
  | line (count : Nat) : Literal (.line (problemText count))
  | table {t : Table} (title : Quiet t.title) (columns : QuietRow t.columns)
      (rows : ∀ row ∈ t.rows, row = notImageRow ∨ QuietRow row) : Literal (.table t)

/-- The computation gives something with the property. -/
def Prints {α : Type} (x : Print α) (P : α → Prop) : Prop := ∃ a, x = .ok a ∧ P a

section Prints

variable {α β : Type} {x : Print α} {f : α → Print β} {P : α → Prop} {Q : β → Prop}

theorem Prints.pure {a : α} (h : P a) : Prints (.ok a) P := ⟨a, rfl, h⟩

theorem Prints.bind (h : Prints x P) (next : ∀ a, P a → Prints (f a) Q) : Prints (x >>= f) Q := by
  obtain ⟨a, rfl, holds⟩ := h
  exact next a holds

theorem Prints.ite {c : Prop} [Decidable c] {y : Print α} (hx : c → Prints x P)
    (hy : ¬ c → Prints y P) : Prints (if c then x else y) P := by
  split
  next h => exact hx h
  next h => exact hy h

theorem prints_mapM {γ : Type} {row : γ → Print β} {items : List γ}
    (each : ∀ v ∈ items, Prints (row v) Q) : Prints (items.mapM row) fun rows => ∀ r ∈ rows, Q r := by
  induction items with
  | nil => exact .pure nofun
  | cons v items ih =>
    obtain ⟨first, rest⟩ := List.forall_mem_cons.1 each
    rw [List.mapM_cons]
    exact first.bind fun r here => (ih rest).bind fun rows later =>
      .pure (List.forall_mem_cons.2 ⟨here, later⟩)

end Prints

theorem quietRow_cons {cell : String} {row : List String} (here : Quiet cell) (rest : QuietRow row) :
    QuietRow (cell :: row) :=
  List.forall_mem_cons.2 ⟨here, rest⟩

theorem quietRow_nil : QuietRow [] := nofun

theorem quietRow_of_unbracketed {row : List String} (plain : ∀ cell ∈ row, Unbracketed cell) :
    QuietRow row := fun cell there => (plain cell there).quiet

/-! ## Rows -/

theorem quiet_sectionRow (s : Section) : Prints (sectionRow s.toValue) QuietRow := by
  refine ⟨[toString (s.index : Int), Markup.escape s.name, hexText (.nat s.virtualAddress),
    hexText (.nat s.virtualSize), hexText (.nat s.rawOffset), hexText (.nat s.rawSize),
    hexText (.nat s.characteristics)], rfl, ?_⟩
  refine quietRow_cons (unbracketed_int _).quiet (quietRow_cons (quiet_escape _) ?_)
  apply quietRow_of_unbracketed
  simp [Value.nat, unbracketed_hexText_int]

theorem quiet_importRow (d : ImportedDll) : Prints (importRow d.toValue) QuietRow := by
  have names : Prints ((d.names.map Value.text).mapM plain) fun names => ∀ name ∈ names, True :=
    prints_mapM (List.forall_mem_map.2 fun _ _ => .pure trivial)
  have row (names : List String) : QuietRow [Markup.escape d.name, Markup.escape
      (", ".intercalate (names ++ (d.ordinals.map Value.int).map fun o => "ord" ++ o.display))] :=
    quietRow_cons (quiet_escape _) (quietRow_cons (quiet_escape _) quietRow_nil)
  exact names.bind fun names _ => .pure (row names)

theorem quiet_signatureRow {r : SignatureRecord} (kind : Unbracketed r.kind.name)
    (serial : Unbracketed r.serial) : Prints (signatureRow r.toValue) QuietRow := by
  refine ⟨[r.kind.name, Markup.escape r.subject, Markup.escape r.issuer, r.serial,
    toString r.notBefore, toString r.notAfter], rfl, ?_⟩
  exact quietRow_cons kind.quiet (quietRow_cons (quiet_escape _) (quietRow_cons (quiet_escape _)
    (quietRow_cons serial.quiet (quietRow_cons (unbracketed_int _).quiet
    (quietRow_cons (unbracketed_int _).quiet quietRow_nil)))))

theorem quiet_versionRow (key value : String) :
    Prints (versionRow (key, .text value)) QuietRow :=
  ⟨_, rfl, quietRow_cons (quiet_escape _) (quietRow_cons (quiet_escape _) quietRow_nil)⟩

/-! ## The summary -/

theorem quiet_literal {text? : Option String} (given : (Value.option Value.text text?).isGiven) :
    Prints (literal (.option .text text?)) Quiet := by
  cases text? with
  | none => cases given
  | some text => exact .pure (quiet_escape text)

theorem quiet_richText (rich? : Option RichSignature) :
    Prints (richText (.option RichSignature.toValue rich?)) Quiet := by
  cases rich? with
  | none => exact .pure (by decide : Unbracketed "-").quiet
  | some r =>
    refine ⟨_, rfl, Unbracketed.quiet ?_⟩
    refine unbracketed_append.2 ⟨unbracketed_append.2 ⟨unbracketed_append.2 ⟨by decide, ?_⟩,
      by decide⟩, unbracketed_nat _⟩
    exact unbracketed_hexText_int _

theorem quiet_field {name text : String} (plain : Unbracketed name) (quiet : Quiet text) :
    QuietRow [name, text] :=
  quietRow_cons plain.quiet (quietRow_cons quiet quietRow_nil)

/-- A number with a name that may be missing. -/
theorem unbracketed_numbered {text name : String} (number : Unbracketed text)
    (named : Unbracketed name) : Unbracketed s!"{text} ({name})" := by
  refine unbracketed_append.2 ⟨unbracketed_append.2 ⟨unbracketed_append.2 ⟨number, ?_⟩, named⟩, ?_⟩ <;>
    decide

/-- The rows of the summary of an image, with the texts of two parts that may be missing. -/
def factRows (i : Image) (h : Header) (pdbText richText : String) : List (List String) :=
  let machineName := (Value.option Value.text (machineName? h.machine)).display
  let subsystemName := (Value.option Value.text (subsystemName? h.subsystem)).display
  [["format", h.layout.name],
    ["machine", s!"{hexText (.nat h.machine)} ({machineName})"],
    ["subsystem", s!"{(h.subsystem : Int)} ({subsystemName})"],
    ["timestamp", toString (h.timestamp : Int)],
    ["characteristics", hexText (.nat h.characteristics)],
    ["image_base", hexText (.nat h.imageBase)],
    ["entry_point", hexText (.option .nat i.entryPoint?)],
    ["linker_version", h.linkerVersion.text],
    ["imphash", Imphash.digest i.readImports.1.dlls],
    ["pdb_path", pdbText],
    ["rich_signature", richText]]

theorem quiet_factRows (i : Image) (h : Header) {pdbText richText : String}
    (quietPath : Quiet pdbText) (quietRich : Quiet richText) :
    ∀ row ∈ factRows i h pdbText richText, QuietRow row := by
  have machine := unbracketed_numbered (unbracketed_hexText_int h.machine)
    (unbracketed_display_option fun _ found => unbracketed_machineName? (n := h.machine) found)
  have subsystem := unbracketed_numbered (unbracketed_int h.subsystem)
    (unbracketed_display_option fun _ found => unbracketed_subsystemName? (n := h.subsystem) found)
  simp only [factRows, List.forall_mem_cons]
  exact ⟨quiet_field (by decide) (unbracketed_layoutName _).quiet,
    quiet_field (by decide) machine.quiet,
    quiet_field (by decide) subsystem.quiet,
    quiet_field (by decide) (unbracketed_int _).quiet,
    quiet_field (by decide) (unbracketed_hexText_int _).quiet,
    quiet_field (by decide) (unbracketed_hexText_int _).quiet,
    quiet_field (by decide) (unbracketed_hexText_option _).quiet,
    quiet_field (by decide) (unbracketed_versionText _).quiet,
    quiet_field (by decide) (Digest.unbracketed_md5 _).quiet,
    quiet_field (by decide) quietPath,
    quiet_field (by decide) quietRich, nofun⟩

theorem quiet_imageRows (i : Image) (h : Header) (records : List SignatureRecord) :
    Prints (imageRows (i.facts h records)) fun rows => ∀ row ∈ rows, QuietRow row := by
  have rows (pdbText : String) (quiet : Quiet pdbText) :
      Prints (richText (.option RichSignature.toValue i.readRich.1) >>= fun rich =>
        .ok (factRows i h pdbText rich)) fun rows => ∀ row ∈ rows, QuietRow row :=
    (quiet_richText _).bind fun rich quietRich => .pure (quiet_factRows i h quiet quietRich)
  exact Prints.ite (fun given => (quiet_literal given).bind rows)
    fun _ => rows "" (by decide : Unbracketed "").quiet

/-! ## Tables -/

/-- Everything in a list is literal. -/
def AllLiteral (printed : List Printed) : Prop := ∀ p ∈ printed, Literal p

theorem literal_table {title : String} {columns : List String} {rows : List (List String)}
    (plain : Unbracketed title ∧ ∀ c ∈ columns, Unbracketed c) (quiet : ∀ row ∈ rows, QuietRow row) :
    Literal (.table ⟨title, columns, rows⟩) :=
  .table plain.1.quiet (quietRow_of_unbracketed plain.2) fun row there => .inr (quiet row there)

theorem literal_sectionTable (sections : List Section) :
    Prints (sectionTable (.list (sections.map Section.toValue))) Literal :=
  (prints_mapM (List.forall_mem_map.2 fun s _ => quiet_sectionRow s)).bind fun _ quiet =>
    .pure (literal_table (by decide) quiet)

theorem literal_tableOf {α : Type} {title : String} {columns : List String}
    {row : Value → Print (List String)} {items : List α} {toValue : α → Value}
    (plain : Unbracketed title ∧ ∀ c ∈ columns, Unbracketed c)
    (each : ∀ a ∈ items, Prints (row (toValue a)) QuietRow) :
    Prints (tableOf title columns row (.list (items.map toValue))) AllLiteral := by
  unfold tableOf
  split
  · exact .pure nofun
  · exact (prints_mapM (List.forall_mem_map.2 each)).bind fun _ quiet =>
      .pure (List.forall_mem_singleton.2 (literal_table plain quiet))

theorem literal_versionTable (pairs : List (String × String)) :
    Prints (versionTable (.record (pairs.map fun (key, value) => (key, .text value)))) AllLiteral := by
  unfold versionTable
  split
  · exact .pure nofun
  · refine (prints_mapM (Q := QuietRow) (List.forall_mem_map.2 fun e _ => ?_)).bind fun _ quiet =>
      .pure (List.forall_mem_singleton.2 (literal_table (by decide) quiet))
    exact quiet_versionRow e.1 e.2

theorem literal_problemLine (items : List Value) : Prints (problemLine (.list items)) AllLiteral := by
  unfold problemLine
  split
  · exact .pure nofun
  · exact .pure (List.forall_mem_singleton.2 (.line items.length))

/-! ## Reports -/

/-- The first table has the path in its first row as it is, and everything else is literal. -/
structure LiteralBut (path : String) (printed : List Printed) : Prop where
  shown : ∃ rows rest, printed = summary (["input", path] :: rows) :: rest ∧
    (∀ row ∈ rows, row = notImageRow ∨ QuietRow row) ∧ AllLiteral rest

/-- Then it is the path alone that decides. -/
theorem LiteralBut.literal_iff {path : String} {printed : List Printed}
    (h : LiteralBut path printed) : AllLiteral printed ↔ Quiet path := by
  obtain ⟨rows, rest, rfl, quiet, literal⟩ := h.shown
  constructor
  · intro all
    cases all _ List.mem_cons_self with
    | table _ _ each =>
      rcases each _ List.mem_cons_self with other | here
      · exact absurd (List.cons.inj other).1 (by decide)
      · exact here path (by simp)
  · intro here
    have plain : Unbracketed "peprobe: PE summary (static, read-only)" ∧
        ∀ c ∈ ["Field", "Value"], Unbracketed c := by decide
    have row : QuietRow ["input", path] := quiet_field (by decide) here
    exact List.forall_mem_cons.2 ⟨.table plain.1.quiet (quietRow_of_unbracketed plain.2)
      (List.forall_mem_cons.2 ⟨.inr row, quiet⟩), literal⟩

/-- What a report on a file holds apart from the path. -/
inductive Reported (r : Report) : Prop
  | notImage {mode : String}
      (facts : r.facts = [("present", .bool false), ("mode", .text mode)])
  | image {i : Image} {h : Header} {records : List SignatureRecord}
      (facts : r.facts = i.facts h records)
      (plain : ∀ s ∈ records, Unbracketed s.kind.name ∧ Unbracketed s.serial)

theorem prints_render {r : Report} (reported : Reported r) (sha256 : Unbracketed r.input.sha256)
    (mode : Unbracketed r.mode) :
    Prints (render (Scan.entriesOf r.toValue)) (LiteralBut r.input.path) := by
  have evidence (rows : List (List String)) (quiet : ∀ row ∈ rows, row = notImageRow ∨ QuietRow row) :
      ∀ row ∈ ["size", toString r.input.size] :: ["sha256", r.input.sha256] :: ["mode", r.mode] :: rows,
        row = notImageRow ∨ QuietRow row := by
    simp only [List.forall_mem_cons]
    exact ⟨.inr (quiet_field (by decide) (unbracketed_int _).quiet),
      .inr (quiet_field (by decide) sha256.quiet), .inr (quiet_field (by decide) mode.quiet), quiet⟩
  obtain ⟨schema, now, tool, settings, input, mode, facts, problems⟩ := r
  cases reported with
  | notImage facts =>
    cases facts
    exact .pure ⟨_, [], rfl, evidence [notImageRow] (by simp), nofun⟩
  | @image i h records facts plain =>
    cases facts
    refine (quiet_imageRows i h records).bind fun rows quiet => ?_
    refine (literal_sectionTable i.sections.sections).bind fun sections literal => ?_
    refine (literal_tableOf (by decide) fun d _ => quiet_importRow d).bind fun imports dlls => ?_
    refine (literal_tableOf (by decide) fun s there =>
      quiet_signatureRow (plain s there).1 (plain s there).2).bind fun signatures signed => ?_
    refine (literal_versionTable (i.readVersionInfo i.readResources.1).1).bind fun version pairs => ?_
    refine (literal_problemLine (problems.map .record)).bind fun noted problem => ?_
    refine .pure ⟨_, [sections] ++ imports ++ signatures ++ version ++ noted, rfl,
      evidence rows fun row there => .inr (quiet row there), ?_⟩
    simp only [AllLiteral, List.forall_mem_append, List.forall_mem_singleton]
    exact ⟨⟨⟨⟨literal, dlls⟩, signed⟩, pairs⟩, problem⟩

/-! ## Scans -/

/-- A record tells the part that its certificate plays and its serial number. -/
theorem of_ofCertificate {c : Certificate} {kind : SignatureKind} {s : SignatureRecord}
    (made : SignatureRecord.ofCertificate c kind = .ok s) :
    s.kind = kind ∧ s.serial = SignatureRecord.serialText c.serial := by
  unfold SignatureRecord.ofCertificate at made
  split at made
  · cases made
  · cases issuer : c.issuer.text with
    | error fault => rw [issuer] at made; cases made
    | ok text =>
      rw [issuer] at made
      cases subject : c.subject.text with
      | error fault => rw [subject] at made; cases made
      | ok text' =>
        rw [subject] at made
        cases made
        exact ⟨rfl, rfl⟩

theorem of_recordMet? {m : Meeting} {s : SignatureRecord} (met : recordMet? m = some s) :
    ∃ c, m = .ok (.certificate c s.kind) ∧ s.serial = SignatureRecord.serialText c.serial := by
  match m with
  | .error fault => cases met
  | .ok (.problem p) => cases met
  | .ok (.certificate c kind) =>
    rw [recordMet?] at met
    cases record : SignatureRecord.ofCertificate c kind with
    | error fault => rw [record] at met; cases met
    | ok s' =>
      rw [record] at met
      cases met
      obtain ⟨rfl, serial⟩ := of_ofCertificate record
      exact ⟨c, rfl, serial⟩

/-- The words for the parts that a walk gives and the serial numbers have no brackets, whatever the
certificates hold. -/
theorem unbracketed_of_readSignatures {i : Image} {found : List SignatureRecord × List Problem}
    (read : i.readSignatures = .ok found) :
    ∀ s ∈ found.1, Unbracketed s.kind.name ∧ Unbracketed s.serial := by
  intro s there
  rw [readSignatures_eq] at read
  cases run : i.met.foldlM Walked.step {} with
  | error fault => rw [run] at read; cases read
  | ok w =>
    rw [run] at read
    cases read
    rcases mem_found_of_run run there with before | ⟨m, met, record⟩
    · cases before
    · obtain ⟨c, rfl, serial⟩ := of_recordMet? record
      obtain ⟨blob, -, met⟩ := List.mem_flatMap.1 met
      refine ⟨?_, serial ▸ unbracketed_serialText _⟩
      rcases SignatureReader.kind_of_mem_trace met with kind | kind | kind | kind <;>
        rw [kind] <;> decide

/-- What a first snapshot gives. -/
theorem of_snapshot {i : Image} {v : Value} {session : Session}
    (taken : i.ask .snapshot (Session.start i) = (.ok v, session)) {r : Report}
    (facts : r.facts = Scan.entriesOf v) : Reported r := by
  have answer : (i.ask .snapshot (i.after [])).1 = .ok v := congrArg Prod.fst taken
  cases image : i.header? with
  | none =>
    rw [Image.ask, Image.answer, Image.snapshot, image] at answer
    cases answer
    exact .notImage facts
  | some h =>
    cases read : i.readSignatures with
    | error fault =>
      have holds : i.holding .signatures = .error (.signatures fault) := by
        rw [Image.holding, read]
        rfl
      have asked : .signatures ∈ i.asks .snapshot := by
        rw [asks_snapshot image]
        exact Directory.mem_all _
      cases answer.symm.trans ((ask_settles i [] (q := .snapshot) rfl).fails asked holds)
    | ok found =>
      cases answer.symm.trans ((gives_facts image read).run_after [])
      exact .image facts (unbracketed_of_readSignatures read)

theorem reported_of_report {path : String} {file : Bytes} {now version : String} {mode : ScanMode}
    {settings : Settings} {reader : SignatureReader} {r : Report}
    (scanned : Scan.report path file now mode settings version reader = .ok r) :
    Reported r ∧ r.input.path = path ∧ r.input.sha256 = Digest.sha256 file ∧ r.mode = mode.name := by
  cases read : Scan.firstBytes file settings.maxFileSize with
  | error fault =>
    rw [Scan.report, read] at scanned
    cases scanned
  | ok taken =>
    obtain ⟨data, truncated⟩ := taken
    have opened : Scan.imageOf data mode settings.limits reader =
        .ok (Image.read data mode settings.limits reader) := by
      rw [Scan.imageOf, Image.load_eq]
      rfl
    generalize Image.read data mode settings.limits reader = i at opened
    have first : i.snapshot.run (Session.start i) = i.ask .snapshot (Session.start i) := rfl
    simp only [Scan.report, read, bind, Except.bind, opened, Scan.firstAccess, first] at scanned
    cases snapshot : i.ask .snapshot (Session.start i) with
    | mk answer session =>
      rw [snapshot] at scanned
      cases answer with
      | error fault => cases scanned
      | ok v =>
        cases scanned
        exact ⟨of_snapshot snapshot rfl, rfl, rfl, rfl⟩

/-- Whatever a file and its path are, and however the file is scanned, its report can be printed. All
that is printed is literal, except the path, which stands in its cell as it is: so nothing that the
bytes of the file say can steer the console, and the path can as soon as it has an active tag. -/
theorem only_the_path_steers_the_console (path : String) (file : Bytes) (now : String)
    (mode : ScanMode) (settings : Settings) (version : String) (reader : SignatureReader) {r : Report}
    (scanned : Scan.report path file now mode settings version reader = .ok r) :
    ∃ printed, render (Scan.entriesOf r.toValue) = .ok printed ∧ LiteralBut path printed ∧
      (AllLiteral printed ↔ Quiet path) := by
  obtain ⟨reported, rfl, sha256, modeName⟩ := reported_of_report scanned
  obtain ⟨printed, rendered, literal⟩ := prints_render reported
    (sha256 ▸ Digest.unbracketed_sha256 file) (modeName ▸ unbracketed_modeName mode)
  exact ⟨printed, rendered, literal, literal.literal_iff⟩

/-- An image with one section, which is called `[b]`. -/
def taggedFile : Bytes :=
  (([0x4D, 0x5A] : List UInt8) ++ List.replicate 58 0 ++ [0x40, 0x00, 0x00, 0x00, 0x50, 0x45, 0x00,
    0x00, 0x4C, 0x01, 0x01, 0x00] ++ List.replicate 12 0 ++ [0x60, 0x00, 0x02, 0x00, 0x0B, 0x01] ++
    List.replicate 94 0 ++ [0x5B, 0x62, 0x5D] ++ List.replicate 37 0).toArray

/-- At a path with a tag it is the path, not the name of the section, that is not literal. -/
theorem tagged_path_is_active :
    ∃ r, Scan.report "[red]x.exe" taggedFile "" .file {} "" .standard = .ok r ∧
      ∃ printed, render (Scan.entriesOf r.toValue) = .ok printed ∧
        LiteralBut "[red]x.exe" printed ∧ ¬ AllLiteral printed := by
  have answers : (Scan.report "[red]x.exe" taggedFile "" .file {} "" .standard).toBool = true := by
    decide +kernel
  cases scanned : Scan.report "[red]x.exe" taggedFile "" .file {} "" .standard with
  | error fault => rw [scanned] at answers; cases answers
  | ok r =>
    obtain ⟨printed, rendered, literal, quiet⟩ :=
      only_the_path_steers_the_console "[red]x.exe" taggedFile "" .file {} "" .standard scanned
    have red : Markup.Active "[red]x.exe" "red" := {
      shaped := ⟨⟨'r', ['e', 'd'], by decide, by decide⟩, by decide⟩
      stands := ⟨[], ['x', '.', 'e', 'x', 'e'], by decide, by decide⟩ }
    exact ⟨r, rfl, printed, rendered, literal, fun all => quiet.1 all "red" red⟩

end Console

end PeFacts
