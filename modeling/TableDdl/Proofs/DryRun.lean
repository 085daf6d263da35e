import TableDdl.Execution.Offline
import TableDdl.Proofs.Lexical.Identifier
import TableDdl.Proofs.Run

/-!
# Runs without a database

An offline executor has a driver of its own: it runs the statements of a request one by one, and each
is printed or refused.  This module compares it with the calls that are made on any other executor:

* `Offline.Request` is what may be asked of an offline executor, and `Request.call` the call that asks
  the same under the dialect of that executor;
* `Request.withoutDatabase` is the answer to a request where no statement can be run;
* `Offline.perform_dryRun` and `Offline.perform_withoutDatabase` say what one request does.

`Offline.performAll_refines` puts these together for any number of requests.
-/

namespace TableDdl
namespace Offline

/-! ## Requests -/

/-- What may be asked of an offline executor, whose dialect is given. -/
inductive Request where
  | create (table : String) (s : TableSchema)
  | drop (table : String) (soft : Bool)

namespace Request

def call (d : Dialect) : Request → Call
  | create table s => .create d d.quotes.quoter table s
  | drop table soft => .drop d.quotes.quoter table soft

/-- The answer where no statement can be run: a schema that does not compile is reported as such, and
a table without a name needs no statement to be dropped. -/
def withoutDatabase (d : Dialect) : Request → Except OfflineError Answer
  | create table s =>
      match CreateTable.ofSchema d d.quotes.quoter table s with
      | .error cause => .error (.compile cause)
      | .ok _ => .error .noDatabase
  | drop table _ => if table = "" then .ok (.dropped false) else .error .noDatabase

end Request

/-- The result of a request, and what is printed. -/
def perform (o : Offline) : Request → Except OfflineError Answer × String
  | .create table s =>
      let done := o.createTable table s
      (done.1.map fun _ => .created, done.2)
  | .drop table soft =>
      let done := o.dropTable table soft
      (done.1.map .dropped, done.2)

/-- Performs requests one after the other, whatever the earlier ones gave. -/
def performAll (o : Offline) : List Request → List (Except OfflineError Answer) × String
  | [] => ([], "")
  | request :: requests =>
      let done := o.perform request
      let rest := o.performAll requests
      (done.1 :: rest.1, done.2 ++ rest.2)

variable {d : Dialect}

/-! ## Statements -/

/-- A dry run accepts every statement and prints it on a line of its own. -/
theorem runAll_dryRun (sqls : List String) :
    (⟨d, true⟩ : Offline).runAll sqls = (.ok (), lines sqls) := by
  induction sqls with
  | nil => rfl
  | cons sql rest ih =>
    have hlines : lines (sql :: rest) = sql ++ "\n" ++ lines rest := by
      unfold lines
      rw [List.map_cons, String.join_cons]
    rw [runAll, ih, hlines]
    rfl

/-- Without a database the first of several statements is refused already. -/
theorem runAll_withoutDatabase (sql : String) (rest : List String) :
    (⟨d, false⟩ : Offline).runAll (sql :: rest) = (.error .noDatabase, "") := rfl

/-- The writer does the same behind what it has written before. -/
theorem runAll_writer (sqls : List String) (out : String) :
    Executor.writer.runAll sqls out = (.ok (), out ++ lines sqls) := by
  have hwrites : ∀ sql out, Executor.writer sql out =
      (.ok (), (fun out sql => out ++ sql ++ "\n") out sql) := fun _ _ => rfl
  rw [Executor.runAll_of_accepts hwrites, Executor.foldl_append_line]
  rfl

/-! ## One request -/

/-- A request that does not compile prints nothing. -/
theorem perform_of_error {o : Offline} {request : Request} {cause : CompileError}
    (h : (request.call o.dialect).statements = .error cause) :
    o.perform request = (.error (.compile cause), "") := by
  cases request with
  | create table s =>
    cases hcompile : CreateTable.ofSchema o.dialect o.dialect.quotes.quoter table s with
    | error cause' =>
      have hsame : cause' = cause := by
        simpa [Request.call, Call.statements, hcompile, Except.map] using h
      simp [perform, createTable, hcompile, Except.map, hsame]
    | ok t => simp [Request.call, Call.statements, hcompile, Except.map] at h
  | drop table soft => cases h

/-- A request that compiles answers after its statements were run. -/
theorem perform_of_ok {o : Offline} {request : Request} {sqls : List String}
    (h : (request.call o.dialect).statements = .ok sqls) :
    o.perform request =
      ((o.runAll sqls).1.map fun _ => (request.call o.dialect).answer, (o.runAll sqls).2) := by
  cases request with
  | create table s =>
    cases hcompile : CreateTable.ofSchema o.dialect o.dialect.quotes.quoter table s with
    | error cause => simp [Request.call, Call.statements, hcompile, Except.map] at h
    | ok t =>
      have hsqls : t.statements = sqls := by
        simpa [Request.call, Call.statements, hcompile, Except.map] using h
      simp [perform, createTable, hcompile, hsqls, Request.call, Call.answer]
  | drop table soft =>
    -- There is one statement at most, so running it is running the list.
    have hsqls : sqls = (dropStatement? o.dialect.quotes.quoter table soft).toList :=
      (Except.ok.inj h).symm
    rw [hsqls]
    cases hdrop : dropStatement? o.dialect.quotes.quoter table soft with
    | none => simp [perform, dropTable, hdrop, runAll, Request.call, Call.answer, Except.map]
    | some sql =>
      rcases hrun : o.run sql with ⟨r, printed⟩
      cases r <;> simp [perform, dropTable, hdrop, hrun, runAll, Request.call, Call.answer,
        Except.map]

end Offline

/-- The failure of a call on a writer, which refuses no statement. -/
def OfflineError.ofWriter : ExecutionError Empty → OfflineError
  | .compile cause => .compile cause
  | .execution e => nomatch e

namespace Offline

variable {d : Dialect}

/-- In a dry run a request prints what its call writes, and gives the same answer. -/
theorem perform_dryRun (request : Request) (out : String) :
    (Executor.writer.perform (request.call d) out).2 =
        out ++ ((⟨d, true⟩ : Offline).perform request).2 ∧
      ((⟨d, true⟩ : Offline).perform request).1 =
        (Executor.writer.perform (request.call d) out).1.mapError OfflineError.ofWriter := by
  cases h : (request.call d).statements with
  | error cause =>
    rw [perform_of_error (o := ⟨d, true⟩) h, Executor.perform_of_error _ h]
    exact ⟨String.append_empty.symm, rfl⟩
  | ok sqls =>
    rw [perform_of_ok (o := ⟨d, true⟩) h, Executor.perform_of_ok _ h, runAll_writer, runAll_dryRun]
    exact ⟨rfl, rfl⟩

/-- Without a database no request prints anything. -/
theorem perform_withoutDatabase (request : Request) :
    (⟨d, false⟩ : Offline).perform request = (request.withoutDatabase d, "") := by
  cases request with
  | create table s =>
    cases hcompile : CreateTable.ofSchema d d.quotes.quoter table s with
    | error cause => simp [perform, createTable, Request.withoutDatabase, hcompile, Except.map]
    | ok t =>
      simp [perform, createTable, Request.withoutDatabase, hcompile, CreateTable.statements,
        runAll_withoutDatabase, Except.map]
  | drop table soft =>
    by_cases hname : table = ""
    · have hdrop : dropStatement? d.quotes.quoter table soft = none :=
        if_pos (Lexical.name_eq_empty_iff.2 hname)
      have hanswer : (Request.drop table soft).withoutDatabase d = .ok (.dropped false) :=
        if_pos hname
      simp [perform, dropTable, hdrop, hanswer, Except.map]
    · have hdrop : ∃ sql, dropStatement? d.quotes.quoter table soft = some sql :=
        ⟨_, if_neg (mt Lexical.name_eq_empty_iff.1 hname)⟩
      have hanswer : (Request.drop table soft).withoutDatabase d = .error .noDatabase :=
        if_neg hname
      rcases hdrop with ⟨sql, hdrop⟩
      simp [perform, dropTable, hdrop, hanswer, run, Except.map]

/-! ## Whole runs -/

/-- A dry run prints what the same calls write to a writer, and gives the same answers.  Without one
nothing is printed, and every request that needs a statement is refused for want of a database. -/
theorem performAll_refines (d : Dialect) (requests : List Request) :
    (∀ out,
      (Executor.writer.performAll (requests.map (Request.call d)) out).2 =
        out ++ ((⟨d, true⟩ : Offline).performAll requests).2 ∧
      ((⟨d, true⟩ : Offline).performAll requests).1 =
        (Executor.writer.performAll (requests.map (Request.call d)) out).1.map
          (Except.mapError OfflineError.ofWriter)) ∧
    (⟨d, false⟩ : Offline).performAll requests = (requests.map (Request.withoutDatabase d), "") := by
  refine ⟨?_, ?_⟩
  · induction requests with
    | nil => exact fun out => ⟨by simp [performAll, Executor.performAll], rfl⟩
    | cons request requests ih =>
      intro out
      obtain ⟨hwritten, hanswer⟩ := perform_dryRun (d := d) request out
      -- The later calls write behind what the first one has written.
      obtain ⟨hrest, hanswers⟩ := ih (out ++ ((⟨d, true⟩ : Offline).perform request).2)
      simp only [List.map_cons, Executor.performAll, performAll, hwritten]
      refine ⟨?_, ?_⟩
      · rw [hrest, String.append_assoc]
      · rw [hanswer, hanswers]
  · induction requests with
    | nil => rfl
    | cons request requests ih =>
      rw [performAll, perform_withoutDatabase, ih]
      rfl

end Offline
end TableDdl
