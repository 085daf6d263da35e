import TableDdl.Dialect.Known
import TableDdl.Execution.Executor

/-!
# Runs of calls on an executor

An executor is any function on a state that may refuse a statement.  What reaches it during a run of
calls is seen by keeping a log beside its state:

* `Call` is one request to create or drop a table, and `Executor.performAll` performs calls in
  order;
* `Executor.logged` is the same executor with a log of every statement that it was given;
* `Executor.observeAll` cuts the log into what was submitted by each call.

`Executor.performAll_allOrPrefix` says that a call submits its statements up to the first that is
refused, and nothing at all if it does not compile.
-/

namespace TableDdl

/-! ## Calls -/

inductive Call where
  | create (d : Dialect) (q : Quoter) (table : String) (s : TableSchema)
  | drop (q : Quoter) (table : String) (soft : Bool)

/-- What a call gives when nothing went wrong. -/
inductive Answer where
  | created
  /-- Whether there was a statement to run. -/
  | dropped (found : Bool)
deriving DecidableEq, Repr

namespace Call

def statements : Call → Except CompileError (List String)
  | create d q table s => (CreateTable.ofSchema d q table s).map CreateTable.statements
  | drop q table soft => .ok (dropStatement? q table soft).toList

/-- The statements of a call that compiles; one that does not has none. -/
def compiled (call : Call) : List String :=
  match call.statements with
  | .ok sqls => sqls
  | .error _ => []

/-- What the call gives when all its statements were accepted. -/
def answer : Call → Answer
  | create _ _ _ _ => .created
  | drop q table soft => .dropped (dropStatement? q table soft).isSome

end Call

namespace Executor

variable {σ ε : Type}

def perform (execute : Executor σ ε) : Call → σ → Except (ExecutionError ε) Answer × σ
  | .create d q table s, state =>
      let done := execute.createTable d q table s state
      (done.1.map fun _ => .created, done.2)
  | .drop q table soft, state =>
      let done := execute.dropTable q table soft state
      (done.1.map .dropped, done.2)

/-- Performs calls one after the other, whatever the earlier ones gave. -/
def performAll (execute : Executor σ ε) :
    List Call → σ → List (Except (ExecutionError ε) Answer) × σ
  | [], state => ([], state)
  | call :: calls, state =>
      let done := execute.perform call state
      let rest := execute.performAll calls done.2
      (done.1 :: rest.1, rest.2)

/-- What a call gives after its statements were run. -/
def conclude (a : Answer) : Except ε Unit → Except (ExecutionError ε) Answer
  | .ok _ => .ok a
  | .error e => .error (.execution e)

/-- A call that does not compile leaves the state as it was. -/
theorem perform_of_error (execute : Executor σ ε) {call : Call} {cause : CompileError}
    (h : call.statements = .error cause) (state : σ) :
    execute.perform call state = (.error (.compile cause), state) := by
  cases call with
  | create d q table s =>
    cases hcompile : CreateTable.ofSchema d q table s with
    | error cause' =>
      have hsame : cause' = cause := by simpa [Call.statements, hcompile, Except.map] using h
      simp [perform, createTable, hcompile, Except.map, hsame]
    | ok t => simp [Call.statements, hcompile, Except.map] at h
  | drop q table soft => cases h

/-- A call that compiles is the run of its statements. -/
theorem perform_of_ok (execute : Executor σ ε) {call : Call} {sqls : List String}
    (h : call.statements = .ok sqls) (state : σ) :
    execute.perform call state =
      (conclude call.answer (execute.runAll sqls state).1, (execute.runAll sqls state).2) := by
  cases call with
  | create d q table s =>
    cases hcompile : CreateTable.ofSchema d q table s with
    | error cause => simp [Call.statements, hcompile, Except.map] at h
    | ok t =>
      have hsqls : t.statements = sqls := by simpa [Call.statements, hcompile, Except.map] using h
      rcases hrun : execute.runAll sqls state with ⟨r, next⟩
      cases r <;> simp [perform, createTable, hcompile, hsqls, hrun, Except.map, conclude,
        Call.answer]
  | drop q table soft =>
    have hsqls : sqls = (dropStatement? q table soft).toList := (Except.ok.inj h).symm
    rw [hsqls]
    cases hdrop : dropStatement? q table soft with
    | none => simp [perform, dropTable, hdrop, runAll, Except.map, conclude, Call.answer]
    | some sql =>
      rcases hrun : execute sql state with ⟨r, next⟩
      cases r <;> simp [perform, dropTable, hdrop, hrun, runAll, Except.map, conclude, Call.answer]

/-! ## What reaches the executor -/

end Executor

/-- A statement that was submitted, and what the executor said. -/
structure Submission (ε : Type) where
  sql : String
  verdict : Except ε Unit

namespace Executor

variable {σ ε : Type}

def accepted (sqls : List String) : List (Submission ε) :=
  sqls.map fun sql => ⟨sql, .ok ()⟩

/-- The statements of such submissions are the given ones. -/
theorem map_sql_accepted (sqls : List String) :
    (accepted sqls : List (Submission ε)).map Submission.sql = sqls := by
  simp [accepted, Function.comp_def]

/-- The executor with a log of every statement that it is given. -/
def logged (execute : Executor σ ε) : Executor (σ × List (Submission ε)) ε :=
  fun sql seen =>
    let done := execute sql seen.1
    (done.1, (done.2, seen.2 ++ [⟨sql, done.1⟩]))

/-- What is submitted when statements are run up to the first that is refused. -/
def submissions (execute : Executor σ ε) : List String → σ → List (Submission ε)
  | [], _ => []
  | sql :: rest, state =>
      match execute sql state with
      | (.ok _, next) => ⟨sql, .ok ()⟩ :: execute.submissions rest next
      | (.error e, _) => [⟨sql, .error e⟩]

/-- The log does not change what the executor does. -/
theorem runAll_logged (execute : Executor σ ε) (sqls : List String) (state : σ)
    (log : List (Submission ε)) :
    execute.logged.runAll sqls (state, log) =
      ((execute.runAll sqls state).1,
        ((execute.runAll sqls state).2, log ++ execute.submissions sqls state)) := by
  induction sqls generalizing state log with
  | nil => simp [runAll, submissions]
  | cons sql rest ih =>
    rcases hrun : execute sql state with ⟨r, next⟩
    cases r with
    | error e => simp [runAll, submissions, logged, hrun]
    | ok u =>
      have hstep : execute.logged sql (state, log) = (.ok u, (next, log ++ [⟨sql, .ok u⟩])) := by
        simp [logged, hrun]
      have hlog : log ++ [(⟨sql, .ok u⟩ : Submission ε)] ++ execute.submissions rest next =
          log ++ execute.submissions (sql :: rest) state := by
        simp [submissions, hrun]
      simp only [runAll, hstep, hrun, ih, hlog]

/-- Either all statements are accepted, or the run stops at the first that is not. -/
theorem runAll_cases (execute : Executor σ ε) (sqls : List String) (state : σ) :
    ((execute.runAll sqls state).1 = .ok () ∧
      execute.submissions sqls state = accepted sqls) ∨
    ∃ before sql after e, sqls = before ++ sql :: after ∧
      (execute.runAll sqls state).1 = .error e ∧
      execute.submissions sqls state = accepted before ++ [⟨sql, .error e⟩] := by
  induction sqls generalizing state with
  | nil => exact Or.inl ⟨rfl, rfl⟩
  | cons sql rest ih =>
    rcases hrun : execute sql state with ⟨r, next⟩
    cases r with
    | error e => exact Or.inr ⟨[], sql, rest, e, by simp [runAll, submissions, accepted, hrun]⟩
    | ok u =>
      have hall : (execute.runAll (sql :: rest) state).1 = (execute.runAll rest next).1 := by
        simp [runAll, hrun]
      have hgiven : execute.submissions (sql :: rest) state =
          ⟨sql, .ok ()⟩ :: execute.submissions rest next := by
        simp [submissions, hrun]
      rw [hall, hgiven]
      rcases ih next with ⟨hok, hacc⟩ | ⟨before, sql', after, e, hsqls, herr, hgiven'⟩
      · exact Or.inl ⟨hok, by rw [hacc]; rfl⟩
      · exact Or.inr ⟨sql :: before, sql', after, e, by rw [hsqls]; rfl, herr, by rw [hgiven']; rfl⟩

end Executor

/-! ## Observed calls -/

/-- A call of a run as the executor sees it. -/
structure Observation (σ ε : Type) where
  call : Call
  /-- The executor's state when the call began. -/
  before : σ
  /-- What the call submitted, in order. -/
  submitted : List (Submission ε)
  result : Except (ExecutionError ε) Answer
  /-- The executor's state when the call was over. -/
  after : σ

/-- The call submitted all its statements or those up to the first that was refused; and nothing if
it did not compile or had nothing to drop.  Which statements a call has is said as well. -/
structure Observation.AllOrPrefix {σ ε : Type} (o : Observation σ ε) : Prop where
  not_compiled : ∀ cause, o.call.statements = .error cause →
    o.result = .error (.compile cause) ∧ o.submitted = [] ∧ o.after = o.before
  nothing_to_drop : ∀ q table soft, o.call = .drop q table soft → q.name table = "" →
    o.result = .ok (.dropped false) ∧ o.submitted = [] ∧ o.after = o.before
  /-- A table is created by its own statement first, then by those of its indexes. -/
  to_create : ∀ d q table s t, o.call = .create d q table s →
    CreateTable.ofSchema d q table s = .ok t → o.call.statements = .ok (t.statement :: t.indexes)
  /-- A table with a name is dropped by one statement. -/
  to_drop : ∀ q table soft, o.call = .drop q table soft → q.name table ≠ "" →
    o.call.statements =
      .ok ["DROP TABLE " ++ (if soft then "IF EXISTS " else "") ++ q.name table ++ ";"]
  submitted_prefix : ∀ sqls, o.call.statements = .ok sqls →
    o.submitted.map Submission.sql <+: sqls
  completed_iff : ∀ sqls, o.call.statements = .ok sqls →
    ((∃ a, o.result = .ok a) ↔ o.submitted = Executor.accepted sqls)
  answered : ∀ a, o.result = .ok a → a = o.call.answer
  stopped : ∀ sqls cause, o.call.statements = .ok sqls → o.result = .error cause →
    ∃ before sql after e, sqls = before ++ sql :: after ∧
      o.submitted = Executor.accepted before ++ [⟨sql, .error e⟩] ∧ cause = .execution e

namespace Executor

variable {σ ε : Type}

/-- Performs a call with an empty log, so that the log shows what the call submits. -/
def observe (execute : Executor σ ε) (call : Call) (state : σ) : Observation σ ε :=
  let done := execute.logged.perform call (state, [])
  { call, before := state, submitted := done.2.2, result := done.1, after := done.2.1 }

/-- The calls of a run, each from the state in which the one before it ended. -/
def observeAll (execute : Executor σ ε) : List Call → σ → List (Observation σ ε)
  | [], _ => []
  | call :: calls, state =>
      let o := execute.observe call state
      o :: execute.observeAll calls o.after

/-- The log does not change what a call does, and what the call submits goes to its end. -/
theorem perform_logged (execute : Executor σ ε) (call : Call) (state : σ)
    (log : List (Submission ε)) :
    execute.logged.perform call (state, log) =
      ((execute.perform call state).1,
        ((execute.perform call state).2, log ++ (execute.observe call state).submitted)) := by
  unfold observe
  cases h : call.statements with
  | error cause => simp [perform_of_error _ h]
  | ok sqls => simp [perform_of_ok _ h, runAll_logged]

/-- What is observed of a call is its result. -/
theorem result_observe (execute : Executor σ ε) (call : Call) (state : σ) :
    (execute.observe call state).result = (execute.perform call state).1 := by
  unfold observe
  rw [perform_logged]

theorem after_observe (execute : Executor σ ε) (call : Call) (state : σ) :
    (execute.observe call state).after = (execute.perform call state).2 := by
  unfold observe
  rw [perform_logged]

/-- A call that does not compile submits nothing. -/
theorem submitted_observe_of_error (execute : Executor σ ε) {call : Call} {cause : CompileError}
    (h : call.statements = .error cause) (state : σ) :
    (execute.observe call state).submitted = [] := by
  simp [observe, perform_of_error _ h]

/-- One that does submits its statements up to the first that is refused. -/
theorem submitted_observe_of_ok (execute : Executor σ ε) {call : Call} {sqls : List String}
    (h : call.statements = .ok sqls) (state : σ) :
    (execute.observe call state).submitted = execute.submissions sqls state := by
  simp [observe, perform_of_ok _ h, runAll_logged]

/-- Whatever the executor does, a call submits all of its statements or a prefix of them. -/
theorem observe_allOrPrefix (execute : Executor σ ε) (call : Call) (state : σ) :
    (execute.observe call state).AllOrPrefix where
  not_compiled := by
    intro cause h
    have hperform := execute.perform_of_error h state
    refine ⟨?_, execute.submitted_observe_of_error h state, ?_⟩
    · rw [result_observe]
      exact congrArg Prod.fst hperform
    · rw [after_observe]
      exact congrArg Prod.snd hperform
  nothing_to_drop := by
    intro q table soft hcall hname
    have hdrop : call = .drop q table soft := hcall
    subst hdrop
    have h : (Call.drop q table soft).statements = .ok [] := by
      simp [Call.statements, dropStatement?, hname]
    have hperform := execute.perform_of_ok h state
    refine ⟨?_, execute.submitted_observe_of_ok h state, ?_⟩
    · rw [result_observe, hperform]
      simp [runAll, conclude, Call.answer, dropStatement?, hname]
    · rw [after_observe]
      exact congrArg Prod.snd hperform
  to_create := by
    intro d q table s t hcall ht
    have hcreate : call = .create d q table s := hcall
    subst hcreate
    exact congrArg (Except.map CreateTable.statements) ht
  to_drop := by
    intro q table soft hcall hname
    have hdrop : call = .drop q table soft := hcall
    subst hdrop
    have hsome : dropStatement? q table soft =
        some ("DROP TABLE " ++ (if soft then "IF EXISTS " else "") ++ q.name table ++ ";") :=
      if_neg hname
    exact congrArg (fun sql? => Except.ok (Option.toList sql?)) hsome
  submitted_prefix := by
    intro sqls hstatements
    have h : call.statements = .ok sqls := hstatements
    rw [execute.submitted_observe_of_ok h]
    rcases execute.runAll_cases sqls state with
      ⟨_, hall⟩ | ⟨before, sql, after, e, hsqls, _, hgiven⟩
    · refine ⟨[], ?_⟩
      rw [hall, map_sql_accepted, List.append_nil]
    · refine ⟨after, ?_⟩
      rw [hgiven, hsqls, List.map_append, map_sql_accepted]
      simp
  completed_iff := by
    intro sqls hstatements
    have h : call.statements = .ok sqls := hstatements
    rw [result_observe, execute.perform_of_ok h, execute.submitted_observe_of_ok h]
    rcases execute.runAll_cases sqls state with
      ⟨hok, hall⟩ | ⟨before, sql, after, e, hsqls, herr, hgiven⟩
    · simp [hok, hall, conclude]
    · -- The refused statement stands in the log with an error, so not all were accepted.
      have hne : execute.submissions sqls state ≠ accepted sqls := by
        rw [hgiven]
        intro hsame
        have hmem : (⟨sql, .error e⟩ : Submission ε) ∈ accepted sqls := by
          rw [← hsame]
          simp
        rcases List.mem_map.1 hmem with ⟨_, _, hverdict⟩
        cases hverdict
      simp [herr, hne, conclude]
  answered := by
    intro a ha
    rw [result_observe] at ha
    cases h : call.statements with
    | error cause =>
      rw [execute.perform_of_error h] at ha
      cases ha
    | ok sqls =>
      rw [execute.perform_of_ok h] at ha
      cases hrun : (execute.runAll sqls state).1 with
      | error e => simp [hrun, conclude] at ha
      | ok u =>
        have hanswer : call.answer = a := by simpa [hrun, conclude] using ha
        exact hanswer.symm
  stopped := by
    intro sqls cause hstatements herror
    have h : call.statements = .ok sqls := hstatements
    rw [result_observe, execute.perform_of_ok h] at herror
    rcases execute.runAll_cases sqls state with
      ⟨hok, _⟩ | ⟨before, sql, after, e, hsqls, herr, hgiven⟩
    · simp [hok, conclude] at herror
    · refine ⟨before, sql, after, e, hsqls, ?_, ?_⟩
      · rw [execute.submitted_observe_of_ok h, hgiven]
      · rw [herr] at herror
        exact (Except.error.inj herror).symm

/-! ## Whole runs -/

/-- The calls of a run are observed in order. -/
theorem map_call_observeAll (execute : Executor σ ε) (calls : List Call) (state : σ) :
    (execute.observeAll calls state).map Observation.call = calls := by
  induction calls generalizing state with
  | nil => rfl
  | cons call calls ih =>
    rw [observeAll, List.map_cons, ih]
    rfl

/-- Each of them is performed in the state in which the one before it ended. -/
theorem forall_observeAll_allOrPrefix (execute : Executor σ ε) (calls : List Call) (state : σ) :
    ∀ o ∈ execute.observeAll calls state,
      execute.perform o.call o.before = (o.result, o.after) ∧ o.AllOrPrefix := by
  induction calls generalizing state with
  | nil => simp [observeAll]
  | cons call calls ih =>
    intro o ho
    rcases List.mem_cons.1 ho with rfl | hrest
    · refine ⟨?_, execute.observe_allOrPrefix call state⟩
      rw [result_observe, after_observe]
      rfl
    · exact ih _ o hrest

/-- The log of a whole run is what its calls submitted, and changes nothing else. -/
theorem performAll_logged (execute : Executor σ ε) (calls : List Call) (state : σ)
    (log : List (Submission ε)) :
    execute.logged.performAll calls (state, log) =
      ((execute.observeAll calls state).map Observation.result,
        ((execute.performAll calls state).2,
          log ++ (execute.observeAll calls state).flatMap Observation.submitted)) := by
  induction calls generalizing state log with
  | nil => simp [performAll, observeAll]
  | cons call calls ih =>
    simp only [performAll, perform_logged, observeAll, ih, after_observe, List.map_cons,
      List.flatMap_cons, result_observe, List.append_assoc]

/-- A run gives the results of its calls. -/
theorem performAll_fst (execute : Executor σ ε) (calls : List Call) (state : σ) :
    (execute.performAll calls state).1 =
      (execute.observeAll calls state).map Observation.result := by
  induction calls generalizing state with
  | nil => rfl
  | cons call calls ih =>
    simp only [performAll, observeAll, ih, after_observe, List.map_cons, result_observe]

/-! ## Executors that refuse nothing -/

/-- An executor that refuses nothing takes all statements in order. -/
theorem runAll_of_accepts {execute : Executor σ ε} {f : σ → String → σ}
    (h : ∀ sql state, execute sql state = (.ok (), f state sql)) (sqls : List String) (state : σ) :
    execute.runAll sqls state = (.ok (), sqls.foldl f state) := by
  induction sqls generalizing state with
  | nil => rfl
  | cons sql rest ih =>
    rw [runAll, h]
    exact ih (f state sql)

/-- What is left of a run are the statements of the calls that compiled. -/
theorem performAll_snd_of_accepts {execute : Executor σ ε} {f : σ → String → σ}
    (h : ∀ sql state, execute sql state = (.ok (), f state sql)) (calls : List Call) (state : σ) :
    (execute.performAll calls state).2 = (calls.flatMap Call.compiled).foldl f state := by
  induction calls generalizing state with
  | nil => rfl
  | cons call calls ih =>
    have hcall : (execute.perform call state).2 = call.compiled.foldl f state := by
      unfold Call.compiled
      cases hstatements : call.statements with
      | error cause => rw [execute.perform_of_error hstatements]; rfl
      | ok sqls => rw [execute.perform_of_ok hstatements, runAll_of_accepts h]
    rw [performAll, List.flatMap_cons, List.foldl_append, ← hcall]
    exact ih _

theorem foldl_append_singleton (kept sqls : List String) :
    sqls.foldl (fun kept sql => kept ++ [sql]) kept = kept ++ sqls := by
  induction sqls generalizing kept with
  | nil => simp
  | cons sql rest ih => simp [ih]

/-- Statements that are written one by one stand on lines of their own. -/
theorem foldl_append_line (out : String) (sqls : List String) :
    sqls.foldl (fun out sql => out ++ sql ++ "\n") out =
      out ++ String.join (sqls.map fun sql => sql ++ "\n") := by
  induction sqls generalizing out with
  | nil => simp
  | cons sql rest ih =>
    calc
      (sql :: rest).foldl (fun out sql => out ++ sql ++ "\n") out
          = out ++ sql ++ "\n" ++ String.join (rest.map fun sql => sql ++ "\n") :=
            ih (out ++ sql ++ "\n")
      _ = out ++ String.join ((sql :: rest).map fun sql => sql ++ "\n") := by
            simp only [List.map_cons, String.join_cons, String.append_assoc]

/-- On any executor, every call of a run submits all its statements or those up to the first that is
refused, and nothing if it does not compile; keeping a log of this changes neither the answers nor
the state.  So where nothing is refused, the statements of the calls that compile are kept or
written down in order. -/
theorem performAll_allOrPrefix (calls : List Call) :
    (∀ {σ ε : Type} (execute : Executor σ ε) (state : σ),
      (execute.observeAll calls state).map Observation.call = calls ∧
      (∀ o ∈ execute.observeAll calls state,
        execute.perform o.call o.before = (o.result, o.after) ∧ o.AllOrPrefix) ∧
      (execute.performAll calls state).1 =
        (execute.observeAll calls state).map Observation.result ∧
      execute.logged.performAll calls (state, []) =
        ((execute.performAll calls state).1,
          ((execute.performAll calls state).2,
            (execute.observeAll calls state).flatMap Observation.submitted))) ∧
    (∀ kept, (recorder.performAll calls kept).2 = kept ++ calls.flatMap Call.compiled) ∧
    ∀ out, (writer.performAll calls out).2 =
      out ++ String.join ((calls.flatMap Call.compiled).map fun sql => sql ++ "\n") := by
  refine ⟨?_, ?_, ?_⟩
  · intro σ ε execute state
    refine ⟨execute.map_call_observeAll calls state,
      execute.forall_observeAll_allOrPrefix calls state, execute.performAll_fst calls state, ?_⟩
    rw [execute.performAll_logged, execute.performAll_fst, List.nil_append]
  · intro kept
    have hkeeps : ∀ sql kept, recorder sql kept =
        (.ok (), (fun kept sql => kept ++ [sql]) kept sql) := fun _ _ => rfl
    rw [performAll_snd_of_accepts hkeeps, foldl_append_singleton]
  · intro out
    have hwrites : ∀ sql out, writer sql out =
        (.ok (), (fun out sql => out ++ sql ++ "\n") out sql) := fun _ _ => rfl
    rw [performAll_snd_of_accepts hwrites, foldl_append_line]

end Executor

/-- A table with two indexes, a table without fields, a table without a name, and the first table
again. -/
def Call.mixed : List Call :=
  [.create Dialect.sqlite Dialect.sqlite.quotes.quoter "tags"
      (((({} : TableSchema).addField "id" (Field.ofType "integer")).addIndex "by_id"
        { columns := .one "id" }).addIndex "again" { columns := .one "id", unique := true }),
    .create Dialect.sqlite Dialect.sqlite.quotes.quoter "tags" {},
    .drop Dialect.sqlite.quotes.quoter "" true,
    .drop Dialect.sqlite.quotes.quoter "tags" true]

/-- The second statement of the first call is refused, and so the third is not submitted; the calls
behind it still run. -/
theorem Executor.performAll_allOrPrefix_mixed :
    ((Recorder.executor 2).performAll Call.mixed {}).1 =
        [.error (.execution ⟨"CREATE INDEX \"tags_by_id\" ON \"tags\" (\"id\");"⟩),
          .error (.compile (.noFields "tags")), .ok (.dropped false), .ok (.dropped true)] ∧
      (((Recorder.executor 2).observeAll Call.mixed {}).flatMap Observation.submitted).map
          Submission.sql =
        ["CREATE TABLE \"tags\" (\n\"id\" integer);",
          "CREATE INDEX \"tags_by_id\" ON \"tags\" (\"id\");",
          "DROP TABLE IF EXISTS \"tags\";"] ∧
      ∀ o ∈ (Recorder.executor 2).observeAll Call.mixed {}, o.AllOrPrefix := by
  refine ⟨by rfl, by decide, fun o ho => ?_⟩
  exact (((Executor.performAll_allOrPrefix Call.mixed).1 (Recorder.executor 2) {}).2.1 o ho).2

end TableDdl
