import NativeStubs.Command.Run
import NativeStubs.Proofs.FileTree

/-! # Programs that only read

Loading a configuration and loading sources look at files and leave the tree as it is. So does the
plan of what to generate, which is all that comes before anything is written. A command line comes
to what its command comes to, unless it is stopped.
-/

namespace NativeStubs

namespace FileTree

variable {α β : Type} {x : StateM FileTree α} {f : α → StateM FileTree β}

/-- What a program gives over a tree. -/
def answer (t : FileTree) (x : StateM FileTree α) : α := (x.run t).1

/-- A program that leaves every tree as it is. -/
def ReadOnly (x : StateM FileTree α) : Prop := ∀ t, (x.run t).2 = t

namespace ReadOnly

theorem run_eq (h : ReadOnly x) (t : FileTree) : x.run t = (t.answer x, t) :=
  Prod.ext rfl (h t)

theorem run_bind (h : ReadOnly x) (t : FileTree) :
    (x >>= f).run t = (f (t.answer x)).run t :=
  run_bind_of_run (h.run_eq t)

theorem answer_bind (h : ReadOnly x) (t : FileTree) :
    t.answer (x >>= f) = t.answer (f (t.answer x)) :=
  congrArg Prod.fst (h.run_bind t)

theorem pure (a : α) : ReadOnly (pure a) := fun _ => rfl

theorem bind (h : ReadOnly x) (hf : ∀ a, ReadOnly (f a)) : ReadOnly (x >>= f) := by
  intro t
  rw [h.run_bind]
  exact hf _ t

end ReadOnly

section Files

variable (path : String)

theorem readOnly_kind :
    ReadOnly (FileSystem.kind path : StateM FileTree (Except FileFault FileKind)) := fun _ => rfl

theorem readOnly_read :
    ReadOnly (FileSystem.read path : StateM FileTree (Except FileFault ByteArray)) := fun _ => rfl

theorem readOnly_isFile : ReadOnly (FileSystem.isFile path : StateM FileTree Bool) :=
  (readOnly_kind path).bind fun found => by
    cases found <;> exact .pure _

theorem readOnly_readText :
    ReadOnly (FileSystem.readText path : StateM FileTree (Except FileFault String)) := by
  refine (readOnly_read path).bind fun answer => ?_
  cases answer with
  | error fault => exact .pure _
  | ok bytes =>
    dsimp only
    cases String.fromUTF8? bytes <;> exact .pure _

/-- The text of a file, if it can be read and is valid text. -/
theorem toOption_answer_readText (t : FileTree) :
    (t.answer (FileSystem.readText path)).toOption =
      (t.read path).toOption.bind String.fromUTF8? := by
  have hread : t.answer (FileSystem.read path) = t.read path := rfl
  rw [FileSystem.readText, (readOnly_read path).answer_bind, hread]
  cases t.read path with
  | error fault => rfl
  | ok bytes =>
    dsimp only [Except.toOption, Option.bind_some]
    cases String.fromUTF8? bytes <;> rfl

end Files

end FileTree

open FileTree

theorem Config.readOnly_load (path : String) :
    ReadOnly (Config.load path : StateM FileTree (Except Error Config)) :=
  (readOnly_readText path).bind fun answer => by
    cases answer <;> exact .pure _

theorem Config.readOnly_loadOrDefault (explicit : Option String) (dir : String) :
    ReadOnly (Config.loadOrDefault explicit dir : StateM FileTree (Except Error Config)) := by
  cases explicit with
  | some path => exact Config.readOnly_load path
  | none =>
    refine (readOnly_isFile _).bind fun found => ?_
    cases found with
    | true => exact Config.readOnly_load _
    | false => exact .pure _

variable [Network]

namespace Source

theorem readOnly_fetch (source : Source) :
    ReadOnly (source.fetch : StateM FileTree (Except SourceFault String)) := by
  cases source with
  | file path =>
    refine (readOnly_readText path).bind fun answer => ?_
    cases answer <;> exact .pure _
  | url address => exact .pure _

theorem readOnly_load (source : Source) :
    ReadOnly (source.load : StateM FileTree (Except SourceFault Catalog)) := by
  refine (readOnly_fetch source).bind fun answer => ?_
  cases answer with
  | error fault => exact .pure _
  | ok text =>
    dsimp only
    cases Catalog.parse text <;> exact .pure _

theorem readOnly_loadInto (merged : Option Catalog) (sources : List Source) :
    ReadOnly (loadInto merged sources : StateM FileTree (Option Catalog)) := by
  induction sources generalizing merged with
  | nil => exact .pure _
  | cons source rest ih => exact (readOnly_load source).bind fun _ => ih _

theorem readOnly_loadAll (sources : List Source) :
    ReadOnly (loadAll sources : StateM FileTree (Except SourceFault Catalog)) := by
  unfold loadAll
  cases sources.isEmpty with
  | true => exact .pure _
  | false =>
    refine (readOnly_loadInto none sources).bind fun merged => ?_
    cases merged <;> exact .pure _

end Source

theorem GenerateOptions.readOnly_plan (o : GenerateOptions) (dir : String) :
    ReadOnly (o.plan dir : StateM FileTree (Except CommandFault Plan)) := by
  refine (Config.readOnly_loadOrDefault o.config dir).bind fun loaded => ?_
  cases loaded with
  | error error => exact .pure _
  | ok c =>
    refine (Source.readOnly_loadAll (o.sources c)).bind fun merged => ?_
    cases merged <;> exact .pure _

namespace Command

variable {arguments : List String} {dir : String} {t t' : FileTree}

theorem runLine_of_stop {reason : Stop} (hparse : parse arguments = .error reason) :
    (runLine dir arguments : StateM FileTree Outcome).run t = (.stopped reason, t) := by
  rw [runLine, hparse]
  rfl

theorem runLine_of_run {command : Command} {result : Except CommandFault String}
    (hparse : parse arguments = .ok command)
    (hrun : (command.run dir : StateM FileTree (Except CommandFault String)).run t =
      (result, t')) :
    (runLine dir arguments : StateM FileTree Outcome).run t = (.ofResult result, t') := by
  rw [runLine, hparse]
  dsimp only
  rw [StateT.run_map, hrun]
  rfl

end Command

end NativeStubs
