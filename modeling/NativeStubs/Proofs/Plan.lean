import NativeStubs.Proofs.Reading
import NativeStubs.Proofs.Trace

/-! # Carrying out a plan

A command first makes its plan, which changes no file, and then carries it out or rehearses it.
What the command comes to is decided by the calls of the writer.
-/

namespace NativeStubs

open FileTree

namespace Call

def answer : Call → Except Error Unit
  | prepare _ answer => answer
  | write _ _ answer => answer

end Call

namespace Generator

variable {σ : Type} (g : Generator) (w : Writer (StateM σ)) {c : Catalog} {s : σ}

/-- A run in which every call of the writer succeeds. -/
theorem run_of_answers (h : ∀ call ∈ g.trace w c s, call.answer = .ok ()) :
    ((g.run w c).run s).1 = .ok (g.settle (fun _ => none) (start c) c.namespaces) ∧
      g.trace w c s =
        .prepare c.names (.ok ()) :: c.namespaces.filterMap (g.attempt? fun _ => none) := by
  have hrefused : RefusedBy (fun _ => none) (g.trace w c s) :=
    fun name text answer hmem => h _ hmem
  cases hprepare : ((w.prepare c.names).run s).1 with
  | error error =>
    obtain ⟨-, htrace⟩ := g.run_of_prepare_error w hprepare
    have hanswer := h (.prepare c.names (.error error)) (by rw [htrace]; exact List.mem_cons_self)
    cases hanswer
  | ok _ => exact g.run_of_prepare_ok w hprepare hrefused

theorem answers_of_refusedBy (hprepare : ((w.prepare c.names).run s).1 = .ok ())
    (hrefused : RefusedBy (fun _ => none) (g.trace w c s)) :
    ∀ call ∈ g.trace w c s, call.answer = .ok () := by
  rw [(g.run_of_prepare_ok w hprepare hrefused).2, List.forall_mem_cons]
  refine ⟨rfl, fun call hmem => ?_⟩
  obtain ⟨field, -, hattempt⟩ := List.mem_filterMap.mp hmem
  unfold attempt? at hattempt
  split at hattempt
  · cases hattempt
    rfl
  · cases hattempt

end Generator

namespace Plan

variable (p : Plan)

/-- The directory that receives the stubs. -/
def directory : StubDirectory := ⟨p.config.outputDir⟩

/-- The calls of the writer when the plan is carried out over a tree. -/
def calls (t : FileTree) : List Call :=
  p.config.generator.trace (p.directory.writer : Writer (StateM FileTree)) p.catalog t

/-- The calls of the writer to memory when the plan is rehearsed. -/
def rehearsedCalls : List Call := p.config.generator.trace Memory.writer p.catalog {}

theorem answer_of_mem_rehearsedCalls {call : Call} (h : call ∈ p.rehearsedCalls) :
    call.answer = .ok () :=
  p.config.generator.answers_of_refusedBy Memory.writer rfl
    (p.config.generator.refusedBy_trace_refusingWriter none (fun _ => none) p.catalog {}) call h

end Plan

variable [Network]

namespace GenerateOptions

variable {o : GenerateOptions} {dir : String} {t : FileTree} {p : Plan}

theorem run_of_plan_error {fault : CommandFault} (h : t.answer (o.plan dir) = .error fault) :
    (o.run dir : StateM FileTree (Except CommandFault Report)).run t = (.error fault, t) := by
  rw [run, (o.readOnly_plan dir).run_bind, h]
  rfl

theorem run_of_dry (hdry : o.dryRun = true) (h : t.answer (o.plan dir) = .ok p) :
    (o.run dir : StateM FileTree (Except CommandFault Report)).run t =
      (p.judge p.rehearse.1, t) := by
  rw [run, (o.readOnly_plan dir).run_bind, h]
  dsimp only
  rw [if_pos hdry]
  rfl

theorem run_of_real {result : Except Error Report} {t' : FileTree} (hreal : o.dryRun = false)
    (h : t.answer (o.plan dir) = .ok p)
    (hcarryOut : (p.carryOut : StateM FileTree (Except Error Report)).run t = (result, t')) :
    (o.run dir : StateM FileTree (Except CommandFault Report)).run t = (p.judge result, t') := by
  rw [run, (o.readOnly_plan dir).run_bind, h]
  dsimp only
  rw [if_neg (by simp [hreal]), StateT.run_map, hcarryOut]
  rfl

end GenerateOptions

namespace Outcome

/-- What a command that writes stubs comes to. -/
def ofReport (result : Except CommandFault Report) : Outcome :=
  ofResult (result.map fun _ => "")

end Outcome

theorem Command.runLine_generate {arguments : List String} {o : GenerateOptions} {dir : String}
    {t t' : FileTree} {result : Except CommandFault Report}
    (hparse : Command.parse arguments = .ok (.generate o))
    (hrun : (o.run dir : StateM FileTree (Except CommandFault Report)).run t = (result, t')) :
    (Command.runLine dir arguments : StateM FileTree Outcome).run t =
      (.ofReport result, t') := by
  refine runLine_of_run hparse ?_
  rw [run, StateT.run_map, hrun]
  rfl

end NativeStubs
