import Mathlib.Data.List.Induction
import Mathlib.Data.List.TakeWhile
import PeFacts.Image.Query

/-!
# What an access does to a session

A session is known by the order in which directories were read: `Tracks i order s` says that `s`
remembers just these directories, with what they hold, and notes the block of problems of each one
in this order. An access that gives `r` and reads the directories `ds` (`Gives i x r ds`) does so
from every session that is tracked, and puts those of `ds` that are new at the end of the order.
-/

namespace PeFacts

open Guarded

namespace Image

variable (i : Image)

/-- What a directory holds, with the problems met. -/
def holding : (d : Directory) → Except AccessFault (d.Content × List Problem)
  | .imports => .ok i.readImports
  | .exports => .ok i.readExports
  | .resources => .ok i.readResources
  | .versionInfo => .ok (i.readVersionInfo i.readResources.1)
  | .signatures => i.readSignatures.mapError .signatures
  | .rich => .ok i.readRich
  | .pdbPath => .ok i.readPdbPath

/-- The problems met in reading a directory. -/
def block (d : Directory) : List Problem :=
  match i.holding d with
  | .ok (_, problems) => problems
  | .error _ => []

/-- The directory can be read. -/
def readable (d : Directory) : Bool := (i.holding d).toBool

/-- The directories that are read for a directory, itself the last. -/
def needs : Directory → List Directory
  | .versionInfo => if i.isPe then [.resources, .versionInfo] else [.versionInfo]
  | d => [d]

/-- The directories that are read when those of a list are asked for: reading stops at the first one
that cannot be read. -/
def reached (ds : List Directory) : List Directory := (ds.flatMap i.needs).takeWhile i.readable

/-- What comes of asking for directories: only the signatures may be unreadable. -/
def outcome (ds : List Directory) : Except AccessFault Unit :=
  if .signatures ∈ ds then (i.holding .signatures).map fun _ => () else .ok ()

end Image

/-- The directories that a fact is taken from. -/
def Fact.asks : Fact → List Directory
  | .importTable | .numberOfImports | .numberOfImportedFunctions => [.imports]
  | .exportTable | .numberOfExports | .dllName | .exportTimestamp => [.exports]
  | .resourceIndex | .resources | .numberOfResources => [.resources]
  | .versionInfo => [.versionInfo]
  | .signatures | .numberOfSignatures | .isSigned => [.signatures]
  | .richSignature => [.rich]
  | .pdbPath => [.pdbPath]
  | _ => []

/-- The directories that a query asks for. A snapshot of what is no image asks for none. -/
def Image.asks (i : Image) : Query → List Directory
  | .fact f => f.asks
  | .exports _ => [.exports]
  | .imports .. | .imphash | .importFunctions => [.imports]
  | .locale _ | .language _ | .firstOfType _ => [.resources]
  | .snapshot => if i.isPe then Directory.all else []
  | .analyze => Directory.all
  | .richVersion .. | .richTool .. => [.rich]
  | .validOn _ => [.signatures]
  | _ => []

/-- The query asks for a part of the image that need not be there. -/
def Query.ofPart : Query → Bool
  | .constant _ | .directory _ | .layout | .headerField _ | .mappedSize _
  | .sectionContains .. => true
  | _ => false

/-- The directories that a query reads. -/
def Image.reads (i : Image) (q : Query) : List Directory := i.reached (i.asks q)

namespace Directory

theorem mem_all (d : Directory) : d ∈ all := by cases d <;> decide

/-- The order of reading after one more directory is asked for. -/
def note (order : List Directory) (d : Directory) : List Directory :=
  if d ∈ order then order else order ++ [d]

/-- The order of reading after the directories of a list are asked for. -/
def noteAll (order ds : List Directory) : List Directory := ds.foldl note order

variable {order ds es : List Directory} {d : Directory}

@[simp] theorem noteAll_nil : noteAll order [] = order := rfl

@[simp] theorem noteAll_cons : noteAll order (d :: ds) = noteAll (note order d) ds := rfl

theorem noteAll_append : noteAll order (ds ++ es) = noteAll (noteAll order ds) es :=
  List.foldl_append

theorem mem_note {e : Directory} : e ∈ note order d ↔ e ∈ order ∨ e = d := by
  unfold note
  split
  next known =>
    refine ⟨Or.inl, ?_⟩
    rintro (h | rfl)
    · exact h
    · exact known
  · simp

theorem mem_noteAll {e : Directory} : e ∈ noteAll order ds ↔ e ∈ order ∨ e ∈ ds := by
  induction ds generalizing order with
  | nil => simp
  | cons d ds ih => simp [ih, mem_note, or_assoc]

/-- Directories that were read before are not read again. -/
theorem noteAll_eq_self (h : ∀ d ∈ ds, d ∈ order) : noteAll order ds = order := by
  induction ds with
  | nil => rfl
  | cons d ds ih =>
    have known : d ∈ order := h d (by simp)
    rw [noteAll_cons, note, if_pos known]
    exact ih fun e he => h e (by simp [he])

theorem nodup_note (h : order.Nodup) : (note order d).Nodup := by
  unfold note
  split
  · exact h
  next new =>
    rw [List.nodup_append]
    refine ⟨h, by simp, ?_⟩
    intro a ha b hb same
    rw [List.mem_singleton.1 hb] at same
    exact new (same ▸ ha)

end Directory

open Directory

/-- The session remembers the directories of `order`, which were read in this order, and nothing
else. -/
structure Tracks (i : Image) (order : List Directory) (s : Session) : Prop where
  nodup : order.Nodup
  closed : ∀ d ∈ order, ∀ e ∈ i.needs d, e ∈ order
  readable : ∀ d ∈ order, i.readable d
  known : ∀ d, s.known d = if d ∈ order then (i.holding d).toOption.map (·.1) else none
  problems : s.problems = i.problems ++ order.flatMap i.block
  memo : Remembers i.sections s.memo

/-- From every session that is tracked, `x` gives `r` and reads the directories `ds`. -/
def Gives {α : Type} (i : Image) (x : Access α) (r : Except AccessFault α) (ds : List Directory) :
    Prop :=
  ∀ order s, Tracks i order s →
    ∃ after, x.run.run s = (r, after) ∧ Tracks i (noteAll order ds) after

variable {i : Image} {α β : Type}

theorem Tracks.start (i : Image) : Tracks i [] (Session.start i) where
  nodup := .nil
  closed := by simp
  readable := by simp
  known := by simp [Session.start]
  problems := by simp [Session.start]
  memo := remembers_empty _

/-- Keeping what a directory holds puts it at the end of the order. -/
theorem Tracks.keep {order : List Directory} {s : Session} (h : Tracks i order s) {d : Directory}
    (new : d ∉ order) {a : d.Content} {problems : List Problem}
    (holds : i.holding d = .ok (a, problems)) (closed : ∀ e ∈ i.needs d, e ∈ order ++ [d]) :
    Tracks i (order ++ [d]) (s.keep d a problems) where
  nodup := by
    have noted := nodup_note (d := d) h.nodup
    rwa [note, if_neg new] at noted
  closed := by
    intro e he e' he'
    rcases List.mem_append.1 he with old | last
    · exact List.mem_append_left _ (h.closed e old e' he')
    · rw [List.mem_singleton.1 last] at he'
      exact closed e' he'
  readable := by
    intro e he
    rcases List.mem_append.1 he with old | last
    · exact h.readable e old
    · rw [List.mem_singleton.1 last, Image.readable, holds]
      rfl
  known := by
    intro e
    by_cases same : d = e
    · subst same
      simp [Session.keep, holds, Except.toOption]
    · have other : e ≠ d := fun eq => same eq.symm
      simp [Session.keep, same, other, h.known e]
  problems := by
    simp [Session.keep, h.problems, Image.block, holds]
  memo := h.memo

namespace Gives

theorem pure (a : α) : Gives i (Pure.pure a) (.ok a) [] :=
  fun _ s h => ⟨s, rfl, h⟩

theorem throw (fault : AccessFault) : Gives i (MonadExcept.throw fault : Access α) (.error fault) [] :=
  fun _ s h => ⟨s, rfl, h⟩

theorem bind {x : Access α} {f : α → Access β} {a : α} {r : Except AccessFault β}
    {ds es : List Directory} (hx : Gives i x (.ok a) ds) (hf : Gives i (f a) r es) :
    Gives i (x >>= f) r (ds ++ es) := by
  intro order s h
  obtain ⟨mid, run, hm⟩ := hx order s h
  obtain ⟨after, run', ha⟩ := hf _ mid hm
  refine ⟨after, ?_, noteAll_append ▸ ha⟩
  simp only [ExceptT.run_bind, StateT.run_bind, run]
  exact run'

theorem bind_error {x : Access α} {f : α → Access β} {fault : AccessFault} {ds : List Directory}
    (hx : Gives i x (.error fault) ds) : Gives i (x >>= f) (.error fault) ds := by
  intro order s h
  obtain ⟨after, run, ha⟩ := hx order s h
  refine ⟨after, ?_, ha⟩
  simp only [ExceptT.run_bind, StateT.run_bind, run]
  rfl

/-- What is computed from an answer is determined by it. -/
theorem map {x : Access α} {r : Except AccessFault α} {ds : List Directory} (hx : Gives i x r ds)
    (f : α → β) : Gives i (do return f (← x)) (r.map f) ds := by
  cases r with
  | ok a =>
    have whole : Gives i (do return f (← x)) (.ok (f a)) (ds ++ []) := hx.bind (Gives.pure (f a))
    rwa [List.append_nil] at whole
  | error fault => exact hx.bind_error

/-- Directories that are read anyway do not count twice. -/
theorem of_append {x : Access α} {r : Except AccessFault α} {ds es : List Directory}
    (hx : Gives i x r (ds ++ es)) (sub : ∀ e ∈ es, e ∈ ds) : Gives i x r ds := by
  intro order s h
  obtain ⟨after, run, ha⟩ := hx order s h
  rw [noteAll_append, noteAll_eq_self fun e he => mem_noteAll.2 (.inr (sub e he))] at ha
  exact ⟨after, run, ha⟩

theorem run_guarded (x : Guarded α) (s : Session) :
    (Session.guarded x).run.run s =
      ((x.run.run s.memo).1.mapError AccessFault.misuse, { s with memo := (x.run.run s.memo).2 }) := by
  have start : (Session.guarded x).run.run s =
      (Session.settle (x.run.run s.memo).1).run.run { s with memo := (x.run.run s.memo).2 } := rfl
  rw [start]
  cases (x.run.run s.memo).1 <;> rfl

/-- A guarded computation that comes to `a` gives `a` and reads no directory. -/
theorem guarded {x : Guarded α} {a : α} (hx : Yields i.sections x a) :
    Gives i (Session.guarded x) (.ok a) [] := by
  intro order s h
  obtain ⟨memo, run, hm⟩ := hx s.memo h.memo
  refine ⟨{ s with memo }, ?_, { h with memo := hm }⟩
  rw [run_guarded, run]
  rfl

theorem run_remember (d : Directory) (reading : Access (d.Content × List Problem)) (s : Session) :
    (Session.remember d reading).run.run s =
      match s.known d with
      | some a => (.ok a, s)
      | none => (do
        let (a, problems) ← reading
        modify fun s : Session => s.keep d a problems
        return a : Access d.Content).run.run s := by
  have start : (Session.remember d reading).run.run s = (match s.known d with
      | some a => (Pure.pure a : Access d.Content)
      | none => do
        let (a, problems) ← reading
        modify fun s : Session => s.keep d a problems
        return a).run.run s := rfl
  rw [start]
  cases s.known d <;> rfl

/-- A directory is read the first time it is asked for, after those it needs. -/
theorem remember {d : Directory} {reading : Access (d.Content × List Problem)}
    {found : d.Content × List Problem} {ds : List Directory} (holds : i.holding d = .ok found)
    (hr : Gives i reading (.ok found) ds) (needs : i.needs d = ds ++ [d]) (new : d ∉ ds) :
    Gives i (Session.remember d reading) (.ok found.1) (i.needs d) := by
  intro order s h
  rw [run_remember, h.known d, holds]
  by_cases read : d ∈ order
  · rw [if_pos read, noteAll_eq_self (h.closed d read)]
    exact ⟨s, rfl, h⟩
  · rw [if_neg read]
    obtain ⟨after, run, ha⟩ := hr order s h
    have fresh : d ∉ noteAll order ds := fun hd => (mem_noteAll.1 hd).elim read new
    refine ⟨after.keep d found.1 found.2, ?_, ?_⟩
    · simp only [ExceptT.run_bind, StateT.run_bind, run]
      rfl
    · have order_eq : noteAll order (i.needs d) = noteAll order ds ++ [d] := by
        rw [needs, noteAll_append, noteAll_cons, noteAll_nil, note, if_neg fresh]
      rw [order_eq]
      refine ha.keep fresh holds fun e he => ?_
      rw [← order_eq]
      exact mem_noteAll.2 (.inr he)

/-- A directory that cannot be read is tried again each time it is asked for. -/
theorem remember_error {d : Directory} {reading : Access (d.Content × List Problem)}
    {fault : AccessFault} (holds : i.holding d = .error fault)
    (hr : Gives i reading (.error fault) []) :
    Gives i (Session.remember d reading) (.error fault) [] := by
  intro order s h
  have unread : s.known d = none := by rw [h.known d, holds]; split <;> rfl
  rw [run_remember, unread]
  exact hr.bind_error order s h

end Gives

/-! ## Directories -/

/-- What a directory that can be read needs can be read. -/
theorem readable_of_needs {d e : Directory} (h : i.readable d) (he : e ∈ i.needs d) :
    i.readable e := by
  cases d with
  | versionInfo =>
    rw [Image.needs] at he
    split at he
    · rcases List.mem_cons.1 he with rfl | he
      · rfl
      · rw [List.mem_singleton.1 he]
        rfl
    · rw [List.mem_singleton.1 he]
      rfl
  | _ =>
    rw [List.mem_singleton.1 he]
    exact h

theorem mem_needs (i : Image) (d : Directory) : d ∈ i.needs d := by
  cases d with
  | versionInfo => rw [Image.needs]; split <;> simp
  | _ => exact List.mem_singleton_self _

@[simp] theorem reached_nil : i.reached [] = [] := rfl

theorem reached_cons_of_readable {d : Directory} (h : i.readable d) (ds : List Directory) :
    i.reached (d :: ds) = i.needs d ++ i.reached ds := by
  rw [Image.reached, List.flatMap_cons,
    List.takeWhile_append_of_pos fun e he => readable_of_needs h he]
  rfl

/-- Only the signatures may be unreadable, and they need nothing else. -/
theorem needs_of_not_readable {d : Directory} (h : ¬ i.readable d) : i.needs d = [d] := by
  cases d with
  | versionInfo => exact absurd rfl h
  | _ => rfl

theorem reached_cons_of_not_readable {d : Directory} (h : ¬ i.readable d) (ds : List Directory) :
    i.reached (d :: ds) = [] := by
  rw [Image.reached, List.flatMap_cons, needs_of_not_readable h, List.singleton_append,
    List.takeWhile_cons_of_neg h]

theorem gives_resources (i : Image) :
    Gives i (i.content .resources) (.ok i.readResources.1) [.resources] :=
  .remember (d := .resources) rfl (.guarded i.yields_resources) rfl (by simp)

/-- The resources of an image are read before its version information. -/
theorem gives_versionInfo (i : Image) :
    Gives i (i.content .versionInfo) (.ok (i.readVersionInfo i.readResources.1).1)
      (i.needs .versionInfo) := by
  unfold Image.content
  by_cases image : i.isPe
  · have needs : i.needs .versionInfo = [.resources] ++ [.versionInfo] := by
      rw [Image.needs, if_pos image]
      rfl
    refine Gives.remember rfl ?_ needs (by simp)
    rw [if_pos image]
    exact Gives.bind (gives_resources i) (.guarded (i.yields_versionInfo i.readResources.1))
  · have needs : i.needs .versionInfo = [] ++ [.versionInfo] := by
      rw [Image.needs, if_neg image]
      rfl
    refine Gives.remember rfl ?_ needs (by simp)
    rw [if_neg image, Image.readVersionInfo, if_neg image]
    exact .pure _

theorem gives_signatures (i : Image) :
    Gives i (i.content .signatures) ((i.holding .signatures).map (·.1))
      (i.reached [.signatures]) := by
  unfold Image.content
  cases found : i.readSignatures with
  | ok reading =>
    have holds : i.holding .signatures = .ok reading := by rw [Image.holding, found]; rfl
    have there : i.readable .signatures := by rw [Image.readable, holds]; rfl
    rw [reached_cons_of_readable there, reached_nil, List.append_nil, holds]
    exact .remember holds (.pure _) rfl (by simp)
  | error fault =>
    have holds : i.holding .signatures = .error (.signatures fault) := by
      rw [Image.holding, found]
      rfl
    have absent : ¬ i.readable .signatures := by rw [Image.readable, holds]; exact Bool.noConfusion
    rw [reached_cons_of_not_readable absent, holds]
    exact .remember_error holds (.throw _)

/-- What an access to a directory gives. -/
theorem gives_content (i : Image) (d : Directory) :
    Gives i (i.content d) ((i.holding d).map (·.1)) (i.reached [d]) := by
  cases d with
  | imports => exact .remember (d := .imports) rfl (.guarded i.yields_imports) rfl (by simp)
  | exports => exact .remember (d := .exports) rfl (.guarded i.yields_exports) rfl (by simp)
  | resources => exact gives_resources i
  | versionInfo =>
    have whole : i.reached [.versionInfo] = i.needs .versionInfo := by
      rw [reached_cons_of_readable rfl, reached_nil, List.append_nil]
    rw [whole]
    exact gives_versionInfo i
  | signatures => exact gives_signatures i
  | rich => exact .remember (d := .rich) rfl (.guarded i.yields_rich) rfl (by simp)
  | pdbPath => exact .remember (d := .pdbPath) rfl (.guarded i.yields_pdbPath) rfl (by simp)

/-! ## Queries -/

/-- There is an answer when the directories asked for can be read, and else there is their fault. -/
def Settles (i : Image) (r : Except AccessFault α) (ds : List Directory) : Prop :=
  r.map (fun _ => ()) = i.outcome ds

theorem settles_ok (a : α) {ds : List Directory} (h : .signatures ∉ ds) : Settles i (.ok a) ds := by
  rw [Settles, Image.outcome, if_neg h]
  rfl

theorem Settles.map {r : Except AccessFault α} {ds : List Directory} (h : Settles i r ds)
    (f : α → β) : Settles i (r.map f) ds := by
  rw [Settles, ← h]
  cases r <;> rfl

/-- Where the signatures are left alone there is an answer. -/
theorem Settles.answers {r : Except AccessFault α} {ds : List Directory} (h : Settles i r ds)
    (readable : .signatures ∈ ds → i.readable .signatures) : ∃ a, r = .ok a := by
  have fine : i.outcome ds = .ok () := by
    unfold Image.outcome
    split
    next asked =>
      have there := readable asked
      rw [Image.readable] at there
      cases holds : i.holding .signatures with
      | ok found => rfl
      | error fault => rw [holds] at there; cases there
    · rfl
  cases r with
  | ok a => exact ⟨a, rfl⟩
  | error fault => cases h.trans fine

/-- Where the signatures are asked for and cannot be read there is their fault. -/
theorem Settles.fails {r : Except AccessFault α} {ds : List Directory} (h : Settles i r ds)
    (asked : .signatures ∈ ds) {fault : AccessFault} (holds : i.holding .signatures = .error fault) :
    r = .error fault := by
  rw [Settles, Image.outcome, if_pos asked, holds] at h
  cases r with
  | ok a => cases h
  | error other => cases h; rfl

theorem settles_content (i : Image) (d : Directory) : Settles i ((i.holding d).map (·.1)) [d] := by
  cases d with
  | signatures =>
    rw [Settles, Image.outcome, if_pos (List.mem_singleton_self _)]
    cases i.holding .signatures <;> rfl
  | _ => exact settles_ok _ (by decide)

/-- Asking for directories one after the other stops at the first that cannot be read. -/
theorem gives_forM (i : Image) (ds : List Directory) :
    Gives i (ds.forM fun d => do let _ ← i.content d) (i.outcome ds) (i.reached ds) := by
  induction ds with
  | nil => exact .pure _
  | cons d ds ih =>
    have first := (gives_content i d).map fun _ => ()
    cases holds : i.holding d with
    | ok found =>
      have there : i.readable d := by rw [Image.readable, holds]; rfl
      have same : i.outcome (d :: ds) = i.outcome ds := by
        unfold Image.outcome
        by_cases signatures : d = .signatures
        · subst signatures
          rw [holds, if_pos (by simp)]
          split <;> rfl
        · have other : Directory.signatures ≠ d := fun eq => signatures eq.symm
          simp only [List.mem_cons, other, false_or]
      rw [holds, reached_cons_of_readable there, reached_nil, List.append_nil] at first
      rw [reached_cons_of_readable there, same]
      exact .bind first ih
    | error fault =>
      have absent : ¬ i.readable d := by rw [Image.readable, holds]; exact Bool.noConfusion
      have fails : i.outcome (d :: ds) = .error fault := by
        cases d with
        | signatures => rw [Image.outcome, if_pos (by simp), holds]; rfl
        | _ => cases holds
      rw [holds, reached_cons_of_not_readable absent] at first
      rw [reached_cons_of_not_readable absent, fails]
      exact first.bind_error

/-- When the signatures can be read, every directory can. -/
theorem readable_of_signatures (h : i.readable .signatures) (d : Directory) : i.readable d := by
  cases d with
  | signatures => exact h
  | _ => rfl

/-- When every directory can be read, all that are asked for are reached. -/
theorem mem_reached (h : ∀ d, i.readable d) {ds : List Directory} {e : Directory} (asked : e ∈ ds) :
    e ∈ i.reached ds := by
  rw [Image.reached, List.takeWhile_eq_self_iff.2 fun d _ => h d, List.mem_flatMap]
  exact ⟨e, asked, mem_needs i e⟩

theorem gives_view (i : Image) (d : Directory) (f : d.Content → α) :
    Gives i (do return f (← i.content d)) (((i.holding d).map (·.1)).map f) (i.reached [d]) :=
  (gives_content i d).map f

/-- Every fact about an image with these headers, when these records are read from its signatures. -/
def Image.facts (i : Image) (h : Header) (records : List SignatureRecord) :
    List (String × Value) := [
  ("present", .bool true),
  ("mode", .text i.mode.name),
  ("header", h.toValue),
  ("machine_name", .option .text (machineName? h.machine)),
  ("subsystem_name", .option .text (subsystemName? h.subsystem)),
  ("entry_point", .option .nat i.entryPoint?),
  ("is_dll", .bool i.isDll),
  ("is_64bit", .bool i.is64Bit),
  ("sections", .list (i.sections.sections.map Section.toValue)),
  ("imports", .list (i.readImports.1.dlls.map ImportedDll.toValue)),
  ("imphash", .text (Imphash.digest i.readImports.1.dlls)),
  ("exports", i.readExports.1.toValue),
  ("resources", .list (i.readResources.1.entries.map ResourceEntry.toValue)),
  ("version_info", .record ((i.readVersionInfo i.readResources.1).1.map fun (key, value) =>
    (key, .text value))),
  ("signatures", .list (records.map SignatureRecord.toValue)),
  ("rich_signature", .option RichSignature.toValue i.readRich.1),
  ("pdb_path", .option .text i.readPdbPath.1),
  ("overlay", .option (fun (offset, size) =>
    .record [("offset", .nat offset), ("size", .nat size)]) i.overlay?),
  ("checksum", .nat h.checksum),
  ("calculated_checksum", .option .nat i.checksum?)]

/-- A snapshot of an image asks for every directory. -/
theorem asks_snapshot {h : Header} (image : i.header? = some h) :
    i.asks .snapshot = Directory.all := by
  rw [Image.asks, Image.isPe, image]
  rfl

/-- A snapshot is the record of all facts, each taken from what its directory holds. -/
theorem gives_facts {h : Header} (image : i.header? = some h)
    {found : List SignatureRecord × List Problem} (read : i.readSignatures = .ok found) :
    Gives i i.snapshot (.ok (.record (i.facts h found.1))) (i.reads .snapshot) := by
  have holds : i.holding .signatures = .ok found := by rw [Image.holding, read]; rfl
  have there := readable_of_signatures (i := i) (by rw [Image.readable, holds]; rfl)
  have forced := gives_forM i Directory.all
  have outcome : i.outcome Directory.all = .ok () := by
    rw [Image.outcome, if_pos (mem_all _), holds]
    rfl
  have signatures := gives_content i .signatures
  rw [outcome] at forced
  rw [holds] at signatures
  rw [Image.reads, asks_snapshot image, Image.snapshot, image]
  exact Gives.of_append (forced.bind ((Gives.guarded i.yields_entryPoint).bind
    ((gives_content i .imports).bind (((gives_content i .imports).map _).bind
    ((gives_content i .exports).bind ((gives_content i .resources).bind
    ((gives_content i .versionInfo).bind (signatures.bind ((gives_content i .rich).bind
    ((gives_content i .pdbPath).bind ((Gives.guarded i.yields_checksum).bind
    (.pure _)))))))))))) fun e _ => mem_reached there (mem_all e)

/-- A snapshot reads every directory first, so it fails where the signatures do. -/
theorem gives_snapshot (i : Image) :
    ∃ r, Gives i i.snapshot r (i.reads .snapshot) ∧ Settles i r (i.asks .snapshot) := by
  cases image : i.header? with
  | none =>
    rw [Image.reads, Image.asks, Image.isPe, Image.snapshot, image]
    exact ⟨_, .pure _, settles_ok _ (by simp)⟩
  | some h =>
    have forced := gives_forM i Directory.all
    have outcome : i.outcome Directory.all = (i.holding .signatures).map fun _ => () :=
      if_pos (mem_all _)
    rw [asks_snapshot image]
    cases read : i.readSignatures with
    | error fault =>
      have holds : i.holding .signatures = .error (.signatures fault) := by
        rw [Image.holding, read]
        rfl
      rw [outcome, holds] at forced
      rw [Image.reads, asks_snapshot image, Image.snapshot, image]
      exact ⟨_, forced.bind_error, (outcome.trans (congrArg _ holds)).symm⟩
    | ok found =>
      refine ⟨_, gives_facts image read, ?_⟩
      rw [Settles, outcome, Image.holding, read]
      rfl

theorem gives_fact (i : Image) (f : Fact) (h : f ≠ .errors) :
    ∃ r, Gives i (i.fact f) r (i.reached f.asks) ∧ Settles i r f.asks := by
  have view (d : Directory) (g : d.Content → Value) :
      ∃ r, Gives i (do return g (← i.content d)) r (i.reached [d]) ∧ Settles i r [d] :=
    ⟨_, gives_view i d g, (settles_content i d).map g⟩
  cases f with
  | errors => exact absurd rfl h
  | entryPoint =>
    exact ⟨_, (Gives.guarded i.yields_entryPoint).map _, settles_ok _ List.not_mem_nil⟩
  | importTable | numberOfImports | numberOfImportedFunctions => exact view .imports _
  | exportTable | numberOfExports | dllName | exportTimestamp => exact view .exports _
  | resourceIndex | resources | numberOfResources => exact view .resources _
  | versionInfo => exact view .versionInfo _
  | signatures | numberOfSignatures | isSigned => exact view .signatures _
  | richSignature => exact view .rich _
  | pdbPath => exact view .pdbPath _
  | _ => exact ⟨_, .pure _, settles_ok _ List.not_mem_nil⟩

/-- The result is not that of an operation used outside its domain. -/
def Proper (r : Except AccessFault α) : Prop := ∀ m, r ≠ .error (.misuse m)

theorem Proper.map {r : Except AccessFault α} (h : Proper r) (f : α → β) : Proper (r.map f) := by
  intro m same
  cases r with
  | ok a => cases same
  | error fault => cases same; exact h m rfl

/-- Apart from parts that need not be there only the signatures fail. -/
theorem Settles.proper {r : Except AccessFault α} {ds : List Directory} (h : Settles i r ds) :
    Proper r := by
  rintro m rfl
  rw [Settles, Image.outcome, Image.holding] at h
  split at h
  · cases read : i.readSignatures with
    | ok found => rw [read] at h; cases h
    | error fault => rw [read] at h; cases h
  · cases h

theorem gives_requiredHeader (i : Image) : ∃ r, Gives i i.requiredHeader r [] ∧ Proper r := by
  unfold Image.requiredHeader
  cases i.header? with
  | none => exact ⟨_, .throw _, nofun⟩
  | some h => exact ⟨_, .pure _, nofun⟩

theorem gives_requiredConstant (i : Image) (name : String) :
    ∃ r, Gives i (Image.requiredConstant name) r [] ∧ Proper r := by
  unfold Image.requiredConstant
  cases constant? name with
  | none => exact ⟨_, .throw _, nofun⟩
  | some n => exact ⟨_, .pure _, nofun⟩

theorem gives_requiredSection (i : Image) (index : Int) :
    ∃ r, Gives i (i.requiredSection index) r [] ∧ Proper r := by
  unfold Image.requiredSection
  cases i.sections.item? index with
  | none => exact ⟨_, .throw _, nofun⟩
  | some s => exact ⟨_, .pure _, nofun⟩

/-- A query for a part that need not be there reads nothing. -/
theorem gives_part (i : Image) {q : Query} (part : q.ofPart) :
    ∃ r, Gives i (i.answer q) r (i.reads q) ∧ Proper r := by
  cases q with
  | constant name =>
    obtain ⟨r, gives, proper⟩ := gives_requiredConstant i name
    exact ⟨_, gives.map _, proper.map _⟩
  | directory _ | layout | headerField _ =>
    obtain ⟨r, gives, proper⟩ := gives_requiredHeader i
    exact ⟨_, gives.map _, proper.map _⟩
  | mappedSize index | sectionContains index _ =>
    obtain ⟨r, gives, proper⟩ := gives_requiredSection i index
    exact ⟨_, gives.map _, proper.map _⟩
  | _ => cases part

/-- A query for what is always there gives an answer or the fault of the signatures. -/
theorem gives_whole (i : Image) {q : Query} (h : q ≠ .fact .errors) (whole : q.ofPart = false) :
    ∃ r, Gives i (i.answer q) r (i.reads q) ∧ Settles i r (i.asks q) := by
  have view (d : Directory) (g : d.Content → Value) :
      ∃ r, Gives i (do return g (← i.content d)) r (i.reached [d]) ∧ Settles i r [d] :=
    ⟨_, gives_view i d g, (settles_content i d).map g⟩
  cases q with
  | fact f => exact gives_fact i f fun same => h (same ▸ rfl)
  | offset rva =>
    exact ⟨_, (Gives.guarded (i.yields_offset rva)).map _, settles_ok _ List.not_mem_nil⟩
  | calculatedChecksum =>
    exact ⟨_, (Gives.guarded i.yields_checksum).map _, settles_ok _ List.not_mem_nil⟩
  | exports key => exact view .exports _
  | imports _ _ | importFunctions => exact view .imports _
  | imphash =>
    exact ⟨_, (gives_view i .imports _).map _, ((settles_content i .imports).map _).map _⟩
  | locale _ | language _ | firstOfType _ => exact view .resources _
  | richVersion _ _ | richTool _ _ => exact view .rich _
  | validOn time => exact view .signatures _
  | snapshot => exact gives_snapshot i
  | analyze =>
    have outcome : Settles i (i.outcome Directory.all) Directory.all := by
      rw [Settles]
      cases i.outcome Directory.all <;> rfl
    exact ⟨_, (gives_forM i Directory.all).map _, outcome.map _⟩
  | constant _ | directory _ | layout | headerField _ | mappedSize _ | sectionContains _ _ =>
    cases whole
  | _ => exact ⟨_, .pure _, settles_ok _ List.not_mem_nil⟩

/-- What a query gives does not depend on what has been read before, unless it asks for the problems
met so far. -/
theorem gives_answer (i : Image) (q : Query) (h : q ≠ .fact .errors) :
    ∃ r, Gives i (i.answer q) r (i.reads q) ∧ Proper r ∧
      (q.ofPart = false → Settles i r (i.asks q)) := by
  cases part : q.ofPart with
  | true =>
    obtain ⟨r, gives, proper⟩ := gives_part i part
    exact ⟨r, gives, proper, nofun⟩
  | false =>
    obtain ⟨r, gives, settles⟩ := gives_whole i h part
    exact ⟨r, gives, settles.proper, fun _ => settles⟩

/-! ## Runs -/

theorem after_concat (i : Image) (qs : List Query) (q : Query) :
    i.after (qs ++ [q]) = (i.ask q (i.after qs)).2 := by
  rw [Image.after, List.foldl_append]
  rfl

/-- Asking for the problems met so far changes nothing. -/
theorem ask_errors (i : Image) (s : Session) :
    i.ask (.fact .errors) s = (.ok (.list (s.problems.map Problem.record)), s) := rfl

/-- Every query leaves a session that is tracked. -/
theorem Tracks.ask {order : List Directory} {s : Session} (h : Tracks i order s) (q : Query) :
    Tracks i (noteAll order (i.reads q)) (i.ask q s).2 := by
  by_cases errors : q = .fact .errors
  · subst errors
    exact h
  · obtain ⟨r, gives, -⟩ := gives_answer i q errors
    obtain ⟨after, run, ha⟩ := gives order s h
    rw [Image.ask, run]
    exact ha

/-- The order in which queries that are asked one after the other read the directories. -/
def Image.order (i : Image) (qs : List Query) : List Directory := noteAll [] (qs.flatMap i.reads)

theorem order_concat (i : Image) (qs : List Query) (q : Query) :
    i.order (qs ++ [q]) = noteAll (i.order qs) (i.reads q) := by
  rw [Image.order, List.flatMap_append, noteAll_append, List.flatMap_singleton]
  rfl

/-- The session after any queries is tracked. -/
theorem tracks_after (i : Image) (qs : List Query) : Tracks i (i.order qs) (i.after qs) := by
  induction qs using List.reverseRecOn with
  | nil => exact .start i
  | append_singleton qs q ih =>
    rw [after_concat, order_concat]
    exact ih.ask q

/-- What an access gives does not depend on what was asked before. -/
theorem Gives.run_after {x : Access α} {r : Except AccessFault α} {ds : List Directory}
    (gives : Gives i x r ds) (past : List Query) : (x.run.run (i.after past)).1 = r := by
  obtain ⟨after, run, -⟩ := gives _ _ (tracks_after i past)
  exact congrArg Prod.fst run

/-- What is computed from a directory is computed from what it holds. -/
theorem run_view (i : Image) (d : Directory) (f : d.Content → α) (past : List Query) :
    ((do return f (← i.content d) : Access α).run.run (i.after past)).1 =
      ((i.holding d).map (·.1)).map f :=
  (gives_view i d f).run_after past

/-- After any queries, a query for what is always there has an answer or the fault of the signatures
that it asks for. -/
theorem ask_settles (i : Image) (past : List Query) {q : Query} (whole : q.ofPart = false) :
    Settles i (i.ask q (i.after past)).1 (i.asks q) := by
  by_cases errors : q = .fact .errors
  · subst errors
    exact settles_ok _ List.not_mem_nil
  · obtain ⟨r, gives, -, settles⟩ := gives_answer i q errors
    rw [Image.ask, gives.run_after past]
    exact settles whole

/-- A query for the signatures is for no part that need not be there. -/
theorem ofPart_of_signatures {q : Query} (asked : .signatures ∈ i.asks q) : q.ofPart = false := by
  cases q <;> first | rfl | simp [Image.asks] at asked

/-- A query that asks for the signatures reads them, if they can be read. -/
theorem block_subset_after (readable : i.readable .signatures) (past : List Query) {q : Query}
    (asked : .signatures ∈ i.asks q) {p : Problem} (there : p ∈ i.block .signatures) :
    p ∈ (i.after (past ++ [q])).problems := by
  have read : .signatures ∈ i.reads q := mem_reached (readable_of_signatures readable) asked
  rw [(tracks_after i (past ++ [q])).problems, order_concat, List.mem_append, List.mem_flatMap]
  exact .inr ⟨.signatures, Directory.mem_noteAll.2 (.inr read), there⟩

/-- No query ever uses an operation outside its domain. -/
theorem ask_proper (i : Image) (past : List Query) (q : Query) :
    Proper (i.ask q (i.after past)).1 := by
  by_cases errors : q = .fact .errors
  · subst errors
    exact nofun
  · obtain ⟨r, gives, proper, -⟩ := gives_answer i q errors
    rw [Image.ask, gives.run_after past]
    exact proper

end PeFacts
