import NativeStubs.Proofs.Options
import NativeStubs.Proofs.Plan
import NativeStubs.Proofs.Stored

/-! # Dry runs

A dry run changes no file. It keeps in memory what the run would add to the files of the stub
directory, and comes to the same as the run unless a call of the writer fails.
-/

namespace NativeStubs

open Json FileTree

namespace Generator

variable (g : Generator) (d : StubDirectory)

theorem allowsRun_true (names : List String) : Journal.AllowsRun (fun _ _ => True) d names where
  refl _ := trivial
  trans _ _ := trivial
  directory _ _ _ _ _ := trivial
  start _ _ _ _ _ _ _ := trivial
  append _ _ _ _ _ _ _ := trivial

theorem runNamespaces_logged_journal (r : Report) (fields : Fields Value) (calls : List Call)
    (j : Journal) :
    (((g.runNamespaces (d.writer : Writer (StateM Journal)).logged r fields).run calls).run j).1 =
      (((g.runNamespaces (d.writer : Writer (StateM FileTree)).logged r fields).run calls).run
        j.tree).1 := by
  induction fields generalizing r calls j with
  | nil => rfl
  | cons field rest ih =>
    obtain ⟨name, v⟩ := field
    cases hbuild : g.build name v with
    | error error =>
      rw [runNamespaces_cons_of_error _ _ hbuild, runNamespaces_cons_of_error _ _ hbuild]
      exact ih _ _ _
    | ok o =>
      have hallows := allowsRun_true d [name]
      have hwrite := (Journal.follows_writer_write hallows.toChains
        (hallows.append name List.mem_cons_self) o.text).run_eq j
      rw [runNamespaces_logged_cons _ _ hbuild, runNamespaces_logged_cons _ _ hbuild, hwrite]
      exact ih _ _ _

/-- The calls of a run over a journal are those of the run over its tree. -/
theorem trace_journal (c : Catalog) (j : Journal) :
    g.trace (d.writer : Writer (StateM Journal)) c j =
      g.trace (d.writer : Writer (StateM FileTree)) c j.tree := by
  have hprepare := (Journal.follows_writer_prepare
    (allowsRun_true d c.names).toAllowsPrepare).run_eq j
  unfold trace
  rw [run_logged_eq, run_logged_eq, hprepare]
  dsimp only
  cases ((d.writer.prepare c.names : StateM Journal (Except Error Unit)).run j).1 with
  | error error => rfl
  | ok _ =>
    have hcalls := congrArg Prod.snd (g.runNamespaces_logged_journal d (start c) c.namespaces
      [.prepare c.names (.ok ())]
      ((d.writer.prepare c.names : StateM Journal (Except Error Unit)).run j).2)
    exact hcalls

end Generator

namespace Plan

variable {p : Plan} {t : FileTree}

/-- The journal of carrying out a plan. -/
def journal (p : Plan) (t : FileTree) : Except Error Report × Journal :=
  (p.carryOut : StateM Journal (Except Error Report)).run { tree := t }

theorem run_carryOut (p : Plan) (t : FileTree) :
    (p.carryOut : StateM FileTree (Except Error Report)).run t =
      ((p.journal t).1, (p.journal t).2.tree) :=
  (Journal.follows_run p.config.generator p.catalog
    (Generator.allowsRun_true p.directory _)).run_eq { tree := t }

theorem written_rehearse (p : Plan) :
    p.rehearse.2.written = p.rehearsedCalls.filterMap Call.stored? := by
  have h := p.config.generator.recorded_run Memory.records_writer p.catalog {}
  rwa [List.map_id] at h

theorem appended_journal (p : Plan) (t : FileTree) :
    StubDirectory.appended (p.journal t).2 =
      ((p.calls t).filterMap Call.stored?).map p.directory.fileBytes := by
  have h := p.config.generator.recorded_run p.directory.records_writer p.catalog { tree := t }
  have hnew : StubDirectory.appended { tree := t } = [] := rfl
  rw [Generator.trace_journal, hnew, List.nil_append] at h
  exact h

/-- If no call fails, a plan comes to the same when it is rehearsed, and the texts in memory are
those that were added to files. -/
theorem rehearse_of_answers (h : ∀ call ∈ p.calls t, call.answer = .ok ()) :
    (p.journal t).1 = p.rehearse.1 ∧
      StubDirectory.appended (p.journal t).2 =
        p.rehearse.2.written.map p.directory.fileBytes := by
  obtain ⟨hreal, hcalls⟩ := p.config.generator.run_of_answers _ h
  obtain ⟨hrehearsed, hcalls'⟩ := p.config.generator.run_of_answers _
    fun call => p.answer_of_mem_rehearsedCalls
  have hcarryOut := congrArg Prod.fst (p.run_carryOut t)
  refine ⟨hcarryOut.symm.trans (hreal.trans hrehearsed.symm), ?_⟩
  rw [appended_journal, written_rehearse, calls, hcalls, rehearsedCalls, hcalls']

end Plan

namespace Command

section Agreement

variable [Network] {o : GenerateOptions} {before after : List String}

/-- A command line that is stopped, and one for a dry run, leave the tree as it is. -/
theorem runLine_insert_dryRun_snd
    (hparse : parse ("generate" :: (before ++ after)) = .ok (.generate o))
    (hreal : o.dryRun = false) (dir : String) (t : FileTree) :
    ((runLine dir ("generate" :: (before ++ "--dry-run" :: after)) :
      StateM FileTree Outcome).run t).2 = t := by
  cases hdry : parse ("generate" :: (before ++ "--dry-run" :: after)) with
  | error stop => rw [runLine_of_stop hdry]
  | ok command =>
    cases parse_insert_dryRun_eq_ok hparse hreal hdry
    cases hplan : t.answer (o.plan dir) with
    | error fault => rw [runLine_generate hdry (GenerateOptions.run_of_plan_error hplan)]
    | ok p => rw [runLine_generate hdry (GenerateOptions.run_of_dry rfl hplan)]

/-- Wherever the flag for dry runs is added, the tree stays as it is. Where it stands among the
options, the dry run comes to the same as the run, unless a call of the writer fails, and keeps in
memory the texts that the run adds to files. -/
theorem dryRun_agrees
    (hparse : parse ("generate" :: (before ++ after)) = .ok (.generate o))
    (hreal : o.dryRun = false) (dir : String) (t : FileTree) :
    ((runLine dir ("generate" :: (before ++ "--dry-run" :: after)) :
      StateM FileTree Outcome).run t).2 = t ∧
    ∀ a, GenerateOptions.table.parse {} before = .ok a → "--" ∉ before → ∃ outcome,
      (runLine dir ("generate" :: (before ++ "--dry-run" :: after)) :
        StateM FileTree Outcome).run t = (outcome, t) ∧
      (∀ fault, t.answer (o.plan dir) = .error fault →
        outcome = .failed fault ∧
        (runLine dir ("generate" :: (before ++ after)) : StateM FileTree Outcome).run t =
          (outcome, t)) ∧
      ∀ p, t.answer (o.plan dir) = .ok p →
        outcome = .ofReport (p.judge p.rehearse.1) ∧
        (runLine dir ("generate" :: (before ++ after)) : StateM FileTree Outcome).run t =
          (.ofReport (p.judge (p.journal t).1), (p.journal t).2.tree) ∧
        ((∀ call ∈ p.calls t, call.answer = .ok ()) →
          Outcome.ofReport (p.judge (p.journal t).1) = outcome ∧
          StubDirectory.appended (p.journal t).2 =
            p.rehearse.2.written.map p.directory.fileBytes) := by
  refine ⟨runLine_insert_dryRun_snd hparse hreal dir t, fun a hbefore hseparator => ?_⟩
  have hdry := parse_insert_dryRun hparse hreal hbefore hseparator
  -- Both runs make the same plan, since `o.dry` has the same sources and the same directory.
  cases hplan : t.answer (o.plan dir) with
  | error fault =>
    refine ⟨.failed fault, runLine_generate hdry (GenerateOptions.run_of_plan_error hplan), ?_,
      nofun⟩
    rintro _ ⟨⟩
    exact ⟨rfl, runLine_generate hparse (GenerateOptions.run_of_plan_error hplan)⟩
  | ok p =>
    refine ⟨_, runLine_generate hdry (GenerateOptions.run_of_dry rfl hplan), nofun, ?_⟩
    rintro _ ⟨⟩
    refine ⟨rfl, runLine_generate hparse (GenerateOptions.run_of_real hreal hplan
      (p.run_carryOut t)), fun hcalls => ?_⟩
    obtain ⟨hreport, htexts⟩ := p.rehearse_of_answers hcalls
    exact ⟨by rw [hreport], htexts⟩

end Agreement

/-- A tree with a catalog in which one of the namespaces is malformed. -/
def nativesTree : FileTree :=
  let clear : Value := .object [("name", .string "CLEAR_PED"), ("params", .array [])]
  let natives : Value := .object [("PED", .object [("0x1", clear)]), ("BAD", .null)]
  ⟨[(["natives.json"], .file natives.text.toUTF8)]⟩

def nativesOptions : GenerateOptions := { inputs := ["natives.json"], urls := ["http://"] }

/-- The one declaration that there is to generate from that catalog. -/
def clearPedText : String :=
  "---**`PED` `client`**  \n---[Native Documentation](https://docs.fivem.net/natives/?_)  \n" ++
  "---This native does not have an official description.\nfunction ClearPed() end\n\n"

theorem dryRun_agrees_natives :
    parse ["generate", "-i", "natives.json", "-u", "http://"] = .ok (.generate nativesOptions) ∧
    ∃ outcome p, nativesTree.answer (nativesOptions.plan "") = .ok p ∧
      (∀ call ∈ p.calls nativesTree, call.answer = .ok ()) ∧
      p.rehearse.2.written = [("PED", clearPedText)] ∧
      (runLine "" ["generate", "-i", "natives.json", "--dry-run", "-u", "http://"] :
        StateM FileTree Outcome).run nativesTree = (outcome, nativesTree) ∧
      (runLine "" ["generate", "-i", "natives.json", "-u", "http://"] :
        StateM FileTree Outcome).run nativesTree = (outcome, (p.journal nativesTree).2.tree) ∧
      StubDirectory.appended (p.journal nativesTree).2 =
        [("natives/PED.lua", clearPedText.toUTF8)] := by
  have hparse : parse ("generate" :: (["-i", "natives.json"] ++ ["-u", "http://"])) =
      .ok (.generate nativesOptions) := by decide +kernel
  have hbefore : GenerateOptions.table.parse {} ["-i", "natives.json"] =
      .ok { inputs := ["natives.json"] } := by decide +kernel
  have hplan : ((nativesTree.answer (nativesOptions.plan "")).toOption.any fun p =>
      (p.calls nativesTree).all (fun call => call.answer.toOption.isSome) &&
        p.rehearse.2.written == [("PED", clearPedText)] &&
          p.directory.filePath "PED" == "natives/PED.lua") = true := by decide +kernel
  obtain ⟨-, hagrees⟩ := dryRun_agrees hparse rfl "" nativesTree
  obtain ⟨outcome, hdry, -, hreal⟩ := hagrees _ hbefore (by decide)
  cases hanswer : nativesTree.answer (nativesOptions.plan "") with
  | error fault =>
    rw [hanswer] at hplan
    cases hplan
  | ok p =>
    rw [hanswer] at hplan
    simp only [Option.any, Except.toOption, Bool.and_eq_true, beq_iff_eq] at hplan
    obtain ⟨⟨hcalls, hwritten⟩, hpath⟩ := hplan
    have hsucceed : ∀ call ∈ p.calls nativesTree, call.answer = .ok () := by
      intro call hmem
      have hcall := List.all_eq_true.mp hcalls call hmem
      cases hcase : call.answer with
      | error error =>
        rw [hcase] at hcall
        cases hcall
      | ok _ => rfl
    obtain ⟨-, hrun, htexts⟩ := hreal p hanswer
    obtain ⟨hsame, htexts⟩ := htexts hsucceed
    rw [hsame] at hrun
    rw [hwritten, List.map_singleton, StubDirectory.fileBytes, hpath] at htexts
    exact ⟨hparse, outcome, p, rfl, hsucceed, hwritten, hdry, hrun, htexts⟩

end Command

end NativeStubs
