import Mathlib.Logic.Relation
import DeviceKeys.Proofs.FileSystem.Replace

/-! # The calls of a writer

`FileSystem.replace` runs as a whole. Here the same is told call by call, so that calls of others
can come in between, and so that a writer can stop for good after any of them.

* `Stage` is what a writer knows between two calls: its target, its temporary file, what is still to
  be written to it, and the permission bits it is to get.
* `Call` is one call of a writer: it resolves the path, makes a directory, creates the temporary
  file, writes a part of what is left, asks for the permission bits of the target, sets them, moves
  the file, or gives up and takes the file away. A call that changes nothing is none.
* **`calls_of_replace`**: what `replace` does is done by calls.
-/

namespace DeviceKeys.FileSystem

open DeviceKeys.Path (Name)

/-- Where a writer stands between two calls. -/
inductive Stage where
  | start
  | preparing (target : Path)
  | writing (target : Path) (temporary : Location) (rest : Bytes)
  | adopting (target : Path) (temporary : Location) (mode : Option Nat)
  | moving (target : Path) (temporary : Location)
  | undoing (temporary : Location)
  | done
  | failed

namespace Stage

/-- The temporary file of the writer. -/
def temporary? : Stage → Option Location
  | writing _ t _ | adopting _ t _ | moving _ t | undoing t => some t
  | _ => none

/-- The target that the writer has told. -/
def target? : Stage → Option Path
  | preparing target | writing target _ _ | adopting target _ _ | moving target _ => some target
  | _ => none

/-- What is still to be written, of a temporary file that is to be moved. -/
def owed? : Stage → Option Bytes
  | writing _ _ rest => some rest
  | adopting _ _ _ | moving _ _ => some []
  | _ => none

end Stage

/-- One call of a writer that is to give the path `p` the contents `data`. The name of the temporary
    file is one that nothing has, and not the one in which the path ends. -/
inductive Call (p : Path) (data : Bytes) : FileSystem → Stage → FileSystem → Stage → Prop
  | resolve (fs : FileSystem) : Call p data fs .start fs (.preparing (fs.replaceTarget p))
  | makeDir {fs fs' : FileSystem} {target q : Path} (hq : q ∈ (holderPath target).ancestors)
      (h : fs.makeDir q = .ok fs') : Call p data fs (.preparing target) fs' (.preparing target)
  | create {fs fs' : FileSystem} {target base : Path} {name : Name} {t : Location}
      (hb : fs.temporaryBase (holderPath target) = .ok base) (hn : Path.IsName name)
      (hp : p.components.getLast? ≠ some (.down name))
      (h : fs.createFile (base.join ⟨name⟩) temporaryMode = .ok (t, fs')) :
      Call p data fs (.preparing target) fs' (.writing target t data)
  | write (fs : FileSystem) (target : Path) (t : Location) (part rest : Bytes) :
      Call p data fs (.writing target t (part ++ rest)) (fs.append t part) (.writing target t rest)
  | ask (fs : FileSystem) (target : Path) (t : Location) :
      Call p data fs (.writing target t []) fs (.adopting target t (fs.mode? target))
  | adopt (fs : FileSystem) (target : Path) (t : Location) (mode : Option Nat) :
      Call p data fs (.adopting target t mode) (fs.setBits t mode) (.moving target t)
  | move {fs fs' : FileSystem} {target : Path} {t : Location} (h : fs.rename t target = .ok fs') :
      Call p data fs (.moving target t) fs' .done
  | giveUp {fs : FileSystem} {stage : Stage} {t : Location} (h : stage.temporary? = some t) :
      Call p data fs stage fs (.undoing t)
  | remove (fs : FileSystem) (t : Location) : Call p data fs (.undoing t) (fs.remove t) .failed
  | fail {fs : FileSystem} (target : Path) : Call p data fs (.preparing target) fs .failed

/-- Any number of calls of one writer, with none of others in between. -/
def Calls (p : Path) (data : Bytes) : FileSystem × Stage → FileSystem × Stage → Prop :=
  Relation.ReflTransGen fun a b => Call p data a.1 a.2 b.1 b.2

variable {fs fs' : FileSystem} {p target : Path} {data : Bytes} {t : Location}

theorem Call.calls {stage stage' : Stage} (h : Call p data fs stage fs' stage') :
    Calls p data (fs, stage) (fs', stage') :=
  Relation.ReflTransGen.single h

/-- A writer that has moved its file makes no call. -/
theorem Call.not_of_done {stage' : Stage} : ¬Call p data fs .done fs' stage' := by
  rintro (_ | _ | _ | _ | _ | _ | _ | ht)
  cases ht

/-! ## 1. Making directories -/

theorem calls_climb : ∀ (ps todo : List Path) (fs : FileSystem),
    (∀ q ∈ ps, q ∈ (holderPath target).ancestors) →
      (∀ q ∈ todo, q ∈ (holderPath target).ancestors) →
      Calls p data (fs, .preparing target) ((climb ps todo fs).2, .preparing target) ∧
        ∀ todo', (climb ps todo fs).1 = .ok todo' →
          ∀ q ∈ todo', q ∈ (holderPath target).ancestors
  | [], todo, fs, _, ht => ⟨.refl, fun todo' h => by cases h; exact ht⟩
  | q :: ps, todo, fs, hps, ht => by
    have hq := hps q List.mem_cons_self
    unfold climb
    split
    · exact ⟨.refl, fun todo' h => by cases h; exact ht⟩
    split
    · rename_i fs' hmake
      exact ⟨(Call.makeDir hq hmake).calls, fun todo' h => by cases h; exact ht⟩
    · refine calls_climb ps (q :: todo) fs (fun r hr => hps r (List.mem_cons_of_mem q hr)) ?_
      exact List.forall_mem_cons.mpr ⟨hq, ht⟩
    · split
      · exact ⟨.refl, fun todo' h => by cases h; exact ht⟩
      · exact ⟨.refl, fun todo' h => by cases h⟩

theorem calls_descend : ∀ {ps : List Path} {fs : FileSystem},
    (∀ q ∈ ps, q ∈ (holderPath target).ancestors) →
      Calls p data (fs, .preparing target) ((descend ps fs).2, .preparing target)
  | [], _, _ => .refl
  | q :: ps, fs, hps => by
    have ih {fs : FileSystem} : Calls p data (fs, .preparing target)
        ((descend ps fs).2, .preparing target) :=
      calls_descend fun r hr => hps r (List.mem_cons_of_mem q hr)
    unfold descend
    split
    · rename_i fs' hmake
      exact (Call.makeDir (hps q List.mem_cons_self) hmake).calls.trans ih
    · split
      · exact ih
      · exact .refl

/-- **The missing directories are made by calls.** -/
theorem calls_makeDirs (fs : FileSystem) (p target : Path) (data : Bytes) :
    Calls p data (fs, .preparing target)
      ((fs.makeDirs (holderPath target)).2, .preparing target) := by
  have hclimb : Calls p data (fs, .preparing target)
        ((climb (holderPath target).ancestors [] fs).2, .preparing target) ∧
      ∀ todo, (climb (holderPath target).ancestors [] fs).1 = .ok todo →
        ∀ q ∈ todo, q ∈ (holderPath target).ancestors :=
    calls_climb _ [] fs (fun _ hq => hq) (by simp)
  obtain ⟨hcalls, htodo⟩ := hclimb
  unfold makeDirs
  split
  · rename_i todo fs' hc
    rw [hc] at hcalls htodo
    exact hcalls.trans (calls_descend (htodo todo rfl))
  · rename_i e fs' hc
    rw [hc] at hcalls
    exact hcalls

/-! ## 2. The temporary file -/

variable {temporary : Temporary}

/-- The temporary file is created by a call, under a name that nothing has. -/
theorem call_create (hp : ∀ tag, p.components.getLast? ≠ some (.down (temporaryName tag)))
    (h : fs.createTemporary (holderPath target) = .ok (temporary, fs')) :
    Call p data fs (.preparing target) fs' (.writing target temporary.place data) := by
  obtain ⟨base, tag, hb, hcreate⟩ := exists_base h
  exact .create hb (isName_temporaryName tag) (hp tag) hcreate

/-- The temporary file is written and gets its permission bits by calls. -/
theorem calls_filled (p : Path) (h : fs.fill temporary target data = .ok fs') :
    Calls p data (fs, .writing target temporary.place data)
      (fs', .moving target temporary.place) := by
  have hwrite : Call p data fs (.writing target temporary.place (data ++ []))
      (fs.append temporary.place data) (.writing target temporary.place []) :=
    .write fs target temporary.place data []
  rw [List.append_nil] at hwrite
  obtain rfl := fill_eq_ok h
  exact hwrite.calls.trans ((Call.ask _ target _).calls.trans (Call.adopt _ target _ _).calls)

/-! ## 3. A whole replacement -/

/-- The stage in which a replacement ends. -/
def endStage : Except IoFault Unit → Stage
  | .ok _ => .done
  | .error _ => .failed

/-- **What a replacement does is done by calls**, if the path does not end in the name of a
    temporary file. -/
theorem calls_of_replace (hp : ∀ tag, p.components.getLast? ≠ some (.down (temporaryName tag)))
    (fs : FileSystem) (data : Bytes) :
    Calls p data (fs, .start) ((fs.replace p data).2, endStage (fs.replace p data).1) := by
  have hdirs := calls_makeDirs fs p (fs.replaceTarget p) data
  refine (Call.resolve fs).calls.trans ?_
  unfold replace
  simp only
  split
  · rename_i e fs₁ h
    rw [h] at hdirs
    exact hdirs.trans (Call.fail _).calls
  rename_i fs₁ h
  rw [h] at hdirs
  refine hdirs.trans ?_
  split
  · exact (Call.fail _).calls
  rename_i temporary fs₂ htemp
  refine (call_create hp htemp).calls.trans ?_
  have hundone : Calls p data (fs₂, .writing (fs.replaceTarget p) temporary.place data)
      (fs₂.remove temporary.place, .failed) :=
    (Call.giveUp rfl).calls.trans (Call.remove fs₂ temporary.place).calls
  cases hfill : fs₂.fill temporary (fs.replaceTarget p) data with
  | error e => exact hundone
  | ok fs₃ =>
    simp only [bind, Except.bind]
    split
    · rename_i fs₄ hren
      exact (calls_filled p hfill).trans (Call.move hren).calls
    · exact hundone

end DeviceKeys.FileSystem
