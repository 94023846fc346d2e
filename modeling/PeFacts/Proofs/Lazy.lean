import PeFacts.Proofs.Session

/-!
# Lazy reading

Directories are read when they are first asked for, and every reader shares the positions that were
looked up. None of this can be observed (`ReadsLazily`): an answer is the one that an image gives to
which nothing was asked before, and the problems noted are those of the directories read so far, one
block for each, in the order of their first reading.
-/

namespace PeFacts

open Directory

variable {i : Image}

/-- Reading on demand cannot be observed. -/
structure ReadsLazily (i : Image) : Prop where
  /-- An answer does not depend on what was asked before. -/
  answers : ∀ past q, q ≠ .fact .errors →
    (i.ask q (i.after past)).1 = (i.ask q (Session.start i)).1
  /-- The problems are those noted so far, and asking for them changes nothing. -/
  errors : ∀ past, i.ask (.fact .errors) (i.after past) =
    (.ok (.list ((i.after past).problems.map Problem.record)), i.after past)
  /-- Every directory that was read has one block of problems. -/
  blocks : ∀ past, (i.after past).problems = i.problems ++ (i.order past).flatMap i.block
  /-- No directory is read twice. -/
  once : ∀ past, (i.order past).Nodup
  /-- The directories that were read are those that some query touches. -/
  touched : ∀ past d, d ∈ i.order past ↔ ∃ q ∈ past, d ∈ i.reads q
  /-- They are the ones that are remembered. -/
  remembered : ∀ past d, ((i.after past).known d).isSome ↔ d ∈ i.order past
  /-- A query adds the blocks of just those directories that it is the first to read. -/
  grows : ∀ past q, ∃ new : List Directory,
    (i.after (past ++ [q])).problems = (i.after past).problems ++ new.flatMap i.block ∧
      i.order (past ++ [q]) = i.order past ++ new ∧
      ∀ d, d ∈ new ↔ d ∈ i.reads q ∧ d ∉ i.order past
  /-- The version information of an image has the block of the resources before its own. -/
  resourcesFirst : i.isPe → ∀ past, .resources ∉ i.order past → .versionInfo ∉ i.order past →
    (i.after (past ++ [.fact .versionInfo])).problems =
      (i.after past).problems ++ i.block .resources ++ i.block .versionInfo
  /-- Queries that touch the same directories in another order only permute the problems. -/
  permuted : ∀ past other, (∀ d, (∃ q ∈ past, d ∈ i.reads q) ↔ ∃ q ∈ other, d ∈ i.reads q) →
    (i.after past).problems.Perm (i.after other).problems
  /-- Reading everything a second time changes nothing. -/
  settled : ∀ past, i.after (past ++ [.analyze, .analyze]) = i.after (past ++ [.analyze])

theorem answers_as_fresh (i : Image) (past : List Query) {q : Query} (h : q ≠ .fact .errors) :
    (i.ask q (i.after past)).1 = (i.ask q (Session.start i)).1 := by
  obtain ⟨r, gives, -, -⟩ := gives_answer i q h
  calc (i.ask q (i.after past)).1 = r := gives.run_after past
    _ = (i.ask q (Session.start i)).1 := (gives.run_after []).symm

/-- A session remembers a directory when it was read. -/
theorem Tracks.isSome_iff {order : List Directory} {s : Session} (h : Tracks i order s)
    (d : Directory) : (s.known d).isSome ↔ d ∈ order := by
  rw [h.known d]
  by_cases read : d ∈ order
  · have there := h.readable d read
    rw [Image.readable] at there
    cases holds : i.holding d with
    | ok found => simp [read, Except.toOption]
    | error fault => rw [holds] at there; exact absurd there Bool.noConfusion
  · simp [read]

/-- What is read in addition is new, and each directory is read once. -/
theorem noteAll_eq_append (order ds : List Directory) :
    ∃ new, noteAll order ds = order ++ new ∧ ∀ d, d ∈ new ↔ d ∈ ds ∧ d ∉ order := by
  induction ds generalizing order with
  | nil => exact ⟨[], by simp⟩
  | cons d ds ih =>
    rw [noteAll_cons, note]
    split
    next known =>
      obtain ⟨new, order_eq, mem⟩ := ih order
      refine ⟨new, order_eq, fun e => ?_⟩
      rw [mem e, List.mem_cons]
      refine and_congr_left fun unread => ⟨Or.inr, ?_⟩
      rintro (rfl | he)
      · exact absurd known unread
      · exact he
    next unread =>
      obtain ⟨new, order_eq, mem⟩ := ih (order ++ [d])
      refine ⟨d :: new, by rw [order_eq, List.append_assoc]; rfl, fun e => ?_⟩
      rw [List.mem_cons, mem e, List.mem_append, List.mem_singleton, List.mem_cons]
      by_cases same : e = d
      · subst same
        simpa using unread
      · simp [same]

/-! ## Reading everything twice -/

theorem content_eq_remember (i : Image) (d : Directory) :
    ∃ reading, i.content d = Session.remember d reading := by
  cases d <;> exact ⟨_, rfl⟩

/-- A directory that was read before is not read again. -/
theorem Tracks.content_of_mem {order : List Directory} {s : Session} (h : Tracks i order s)
    {d : Directory} (read : d ∈ order) : ∃ a, (i.content d).run.run s = (.ok a, s) := by
  obtain ⟨a, known⟩ := Option.isSome_iff_exists.1 ((h.isSome_iff d).2 read)
  obtain ⟨reading, same⟩ := content_eq_remember i d
  refine ⟨a, ?_⟩
  rw [same, Gives.run_remember, known]

/-- Trying to read what cannot be read leaves nothing behind. -/
theorem Tracks.content_of_not_readable {order : List Directory} {s : Session} (h : Tracks i order s)
    {d : Directory} (absent : ¬ i.readable d) :
    ∃ fault, (i.content d).run.run s = (.error fault, s) := by
  have unread : s.known d = none := by rw [h.known d, if_neg fun read => absent (h.readable d read)]
  cases d with
  | signatures =>
    rw [Image.content, Gives.run_remember, unread]
    cases found : i.readSignatures with
    | ok reading =>
      have there : i.readable .signatures := by rw [Image.readable, Image.holding, found]; rfl
      exact absurd there absent
    | error fault => exact ⟨_, rfl⟩
  | _ => exact absurd rfl absent

theorem Tracks.forM_eq_self {order : List Directory} {s : Session} (h : Tracks i order s)
    {ds : List Directory} (read : ∀ d ∈ i.reached ds, d ∈ order) :
    ((ds.forM fun d => do let _ ← i.content d : Access Unit).run.run s).2 = s := by
  induction ds with
  | nil => rfl
  | cons d ds ih =>
    have step : ((d :: ds).forM fun d => do let _ ← i.content d : Access Unit) =
        (do let _ ← i.content d
            ds.forM fun d => do let _ ← i.content d) := by
      simp [List.forM_cons]
    rw [step]
    by_cases there : i.readable d
    · rw [reached_cons_of_readable there] at read
      have known : d ∈ order := read d (List.mem_append_left _ (mem_needs i d))
      obtain ⟨a, run⟩ := h.content_of_mem known
      simp only [ExceptT.run_bind, StateT.run_bind, run]
      exact ih fun e he => read e (List.mem_append_right _ he)
    · obtain ⟨fault, run⟩ := h.content_of_not_readable there
      simp only [ExceptT.run_bind, StateT.run_bind, run]
      rfl

/-- Giving a fixed answer in the end leaves the same session behind. -/
theorem run_return_snd {α β : Type} (x : Access α) (b : β) (s : Session) :
    ((do let _ ← x; return b : Access β).run.run s).2 = (x.run.run s).2 := by
  simp only [ExceptT.run_bind, StateT.run_bind]
  cases x.run.run s with
  | mk r after => cases r <;> rfl

/-- The directories that were read are those that some query reads. -/
theorem mem_order {past : List Query} {d : Directory} :
    d ∈ i.order past ↔ ∃ q ∈ past, d ∈ i.reads q := by
  rw [Image.order, mem_noteAll, List.mem_flatMap]
  simp

theorem readsLazily (i : Image) : ReadsLazily i where
  answers past q h := answers_as_fresh i past h
  errors past := ask_errors i _
  blocks past := (tracks_after i past).problems
  once past := (tracks_after i past).nodup
  touched past d := mem_order
  remembered past d := (tracks_after i past).isSome_iff d
  grows past q := by
    obtain ⟨new, order_eq, mem⟩ := noteAll_eq_append (i.order past) (i.reads q)
    rw [← order_concat] at order_eq
    refine ⟨new, ?_, order_eq, mem⟩
    rw [(tracks_after i _).problems, order_eq, List.flatMap_append, ← List.append_assoc,
      ← (tracks_after i past).problems]
  resourcesFirst image past := by
    intro noResources noVersion
    have reads : i.reads (.fact .versionInfo) = [.resources, .versionInfo] := by
      have asks : i.reads (.fact .versionInfo) = i.reached [.versionInfo] := rfl
      rw [asks, reached_cons_of_readable rfl, Image.needs, if_pos image]
      rfl
    have order_eq : i.order (past ++ [.fact .versionInfo]) =
        i.order past ++ [.resources, .versionInfo] := by
      rw [order_concat, reads, noteAll_cons, note, if_neg noResources, noteAll_cons, note,
        if_neg (by simpa using noVersion), noteAll_nil, List.append_assoc]
      rfl
    rw [(tracks_after i _).problems, order_eq, (tracks_after i past).problems]
    simp
  permuted past other same := by
    have perm : (i.order past).Perm (i.order other) := by
      refine (List.perm_ext_iff_of_nodup (tracks_after i past).nodup
        (tracks_after i other).nodup).2 fun d => ?_
      rw [mem_order, mem_order, same d]
    rw [(tracks_after i past).problems, (tracks_after i other).problems]
    exact (perm.flatMap_right _).append_left _
  settled past := by
    have twice : past ++ [Query.analyze, .analyze] = (past ++ [.analyze]) ++ [.analyze] := by simp
    have read : ∀ d ∈ i.reached Directory.all, d ∈ i.order (past ++ [.analyze]) := by
      intro d hd
      rw [order_concat]
      exact mem_noteAll.2 (.inr hd)
    have settled := (tracks_after i (past ++ [.analyze])).forM_eq_self read
    rw [twice, after_concat, Image.ask]
    exact (run_return_snd i.analyze Value.null _).trans settled

/-- Reading on demand cannot be observed on any image that is loaded. -/
theorem lazy_reading_is_unobservable (data : Bytes) (mode : ScanMode) (limits : Limits)
    (reader : SignatureReader) : ∃ i, Image.load data mode limits reader = .ok i ∧ ReadsLazily i :=
  ⟨_, Image.load_eq data mode limits reader, readsLazily _⟩

end PeFacts
