import DeviceKeys.Failure

/-! # What is told of an error

An error is followed in its chain by its source, the source of that, and so on (`chain_eq`), and
each context adds its text in front (`map_message_chain_wrapped`). From the chain come

* the exit status, which is that of the first fault of the key manager (`FirstFault`): contexts do
  not change which one that is (`firstFault_wrapped`), and so they do not change the status
  (`exit_status_by_first_fault`);
* the whole text. A fault that names the error behind it has the text of that in its own
  (`Trouble.exists_front`), and the error behind it stands in the chain once more: what is shown
  repeats it (`shown_repeats_cause`).
-/

namespace DeviceKeys

/-! ## 1. The chain -/

namespace ErrorValue

variable {e : ErrorValue} {f g : ManagerFault} {t : Trouble} {source : Option ErrorValue}

/-- An error is followed by the chain of its source. -/
theorem chain_eq (e : ErrorValue) : e.chain = e :: (e.source?.map chain).getD [] := by
  cases e with
  | fault t source => cases source <;> rfl
  | within text inner => rfl

/-- Contexts stand in front of the chain, the outermost first. -/
theorem map_message_chain_wrapped : ∀ (contexts : List String) (e : ErrorValue),
    (e.wrapped contexts).chain.map message = contexts.reverse ++ e.chain.map message
  | [], _ => rfl
  | context :: contexts, e => by
    have ih := map_message_chain_wrapped contexts (.within context e)
    rw [List.reverse_cons, List.append_assoc]
    exact ih

/-! ## 2. The exit status -/

/-- The first fault of the key manager in the chain of an error. -/
def FirstFault (e : ErrorValue) (f : ManagerFault) : Prop :=
  ∃ front error behind, e.chain = front ++ error :: behind ∧ error.managerFault? = some f ∧
    ∀ x ∈ front, x.managerFault? = none

theorem firstFault_iff : e.FirstFault f ↔ e.chain.findSome? managerFault? = some f :=
  List.findSome?_eq_some_iff.symm

theorem FirstFault.eq_iff (h : e.FirstFault f) : e.FirstFault g ↔ g = f := by
  rw [firstFault_iff, firstFault_iff.mp h]
  exact Option.some_inj.trans eq_comm

/-- An error around an error leaves the first fault as it is. -/
theorem firstFault_within {text : String} : (within text e).FirstFault f ↔ e.FirstFault f := by
  rw [firstFault_iff, firstFault_iff]
  exact Iff.rfl

/-- **Contexts do not change the first fault.** -/
theorem firstFault_wrapped {contexts : List String} :
    (e.wrapped contexts).FirstFault f ↔ e.FirstFault f := by
  induction contexts generalizing e with
  | nil => exact Iff.rfl
  | cons context contexts ih =>
    have hwrapped : (wrapped (.within context e) contexts).FirstFault f ↔ _ := ih
    exact hwrapped.trans firstFault_within

/-- A fault of the key manager is the first of its chain, whatever its source is. -/
theorem firstFault_manager : (fault (.manager g) source).FirstFault f ↔ f = g := by
  rw [firstFault_iff]
  exact Option.some_inj.trans eq_comm

/-- Every other fault leaves it to its source. -/
theorem firstFault_other (h : ∀ g, t ≠ .manager g) :
    (fault t source).FirstFault f ↔ ∃ s, source = some s ∧ s.FirstFault f := by
  have hnone : (fault t source).managerFault? = none := by
    cases t with
    | manager g => exact absurd rfl (h g)
    | _ => rfl
  rw [firstFault_iff, chain_eq, List.findSome?_cons, hnone]
  cases source with
  | none => simp [source?]
  | some s => simp [source?, firstFault_iff]

theorem exitStatus_of_firstFault (h : e.FirstFault f) : e.exitStatus = f.exitStatus := by
  unfold exitStatus
  rw [firstFault_iff.mp h]

theorem exitStatus_of_none (h : ∀ f, ¬e.FirstFault f) : e.exitStatus = exitFailure := by
  unfold exitStatus
  cases hfirst : e.chain.findSome? managerFault? with
  | none => rfl
  | some f => exact absurd (firstFault_iff.mpr hfirst) (h f)

/-- Errors with the same first fault have the same status. -/
theorem exitStatus_congr {e' : ErrorValue} (h : ∀ f, e'.FirstFault f ↔ e.FirstFault f) :
    e'.exitStatus = e.exitStatus := by
  by_cases hsome : ∃ f, e.FirstFault f
  · obtain ⟨f, hf⟩ := hsome
    rw [exitStatus_of_firstFault hf, exitStatus_of_firstFault ((h f).mpr hf)]
  · have hnone : ∀ f, ¬e.FirstFault f := fun f hf => hsome ⟨f, hf⟩
    rw [exitStatus_of_none hnone, exitStatus_of_none fun f hf => hnone f ((h f).mp hf)]

end ErrorValue

/-- What a status tells of the first fault of the key manager, the one that `first` holds of. -/
def StatusTells (status : Nat) (first : ManagerFault → Prop) : Prop :=
  (status = 2 ↔ ∃ what, first (.missingArgument what)) ∧
  (status = 3 ↔ ∃ id, first (.deviceNotFound id)) ∧
  (status = 1 ↔ (∀ what, ¬first (.missingArgument what)) ∧ ∀ id, ¬first (.deviceNotFound id))

theorem StatusTells.congr {status : Nat} {first first' : ManagerFault → Prop}
    (h : StatusTells status first) (hfirst : ∀ f, first f ↔ first' f) :
    StatusTells status first' := by
  simpa only [StatusTells, hfirst] using h

theorem ErrorValue.exitStatus_tells (e : ErrorValue) : StatusTells e.exitStatus e.FirstFault := by
  unfold StatusTells
  by_cases hsome : ∃ f, e.FirstFault f
  · obtain ⟨f, hf⟩ := hsome
    simp only [exitStatus_of_firstFault hf, hf.eq_iff]
    cases f <;> simp [ManagerFault.exitStatus, exitUsage, exitNotFound, exitFailure]
  · have hnone : ∀ f, ¬e.FirstFault f := fun f hf => hsome ⟨f, hf⟩
    simp [exitStatus_of_none hnone, hnone, exitFailure]

/-- The failure of a run has a fault of the key manager in its chain only if it is one. -/
theorem Failure.firstFault_value {failure : Failure} {f : ManagerFault} :
    failure.value.FirstFault f ↔ failure.trouble = .manager f := by
  refine ErrorValue.firstFault_wrapped.trans ?_
  unfold Trouble.value
  by_cases h : ∃ g, failure.trouble = .manager g
  · obtain ⟨g, hg⟩ := h
    rw [hg]
    exact ErrorValue.firstFault_manager.trans (by simp [eq_comm])
  · have hother : ∀ g, failure.trouble ≠ .manager g := fun g hg => h ⟨g, hg⟩
    rw [ErrorValue.firstFault_other hother]
    constructor
    · -- the error behind the fault is not one of the key manager, and has no source
      rintro ⟨s, hs, hfirst⟩
      obtain ⟨cause, -, rfl⟩ := Option.map_eq_some_iff.mp hs
      have hplain : ∀ g, Trouble.plain cause ≠ .manager g := nofun
      obtain ⟨s, hs, -⟩ := (ErrorValue.firstFault_other hplain).mp hfirst
      cases hs
    · exact fun ht => absurd ht (hother f)

/-- **The exit status of an error is told by the first fault of the key manager in its chain**, and
    not by the contexts around it.

    * It is 2 if that is a missing argument, 3 if it is an unknown device, and else 1, also if there
      is no such fault in the chain.
    * A fault of the key manager comes first whatever its source is; every other fault, and every
      other error around an error, leaves it to its source.
    * For the failure that a run ends with it is the fault of that, whatever the contexts are. -/
theorem exit_status_by_first_fault (e : ErrorValue) (contexts : List String) :
    StatusTells (e.wrapped contexts).exitStatus e.FirstFault ∧
    (∀ (e' : ErrorValue) contexts', (∀ f, e'.FirstFault f ↔ e.FirstFault f) →
      (e'.wrapped contexts').exitStatus = (e.wrapped contexts).exitStatus) ∧
    (∀ f g source, (ErrorValue.fault (.manager g) source).FirstFault f ↔ f = g) ∧
    (∀ f t source, (∀ g, t ≠ .manager g) → ((ErrorValue.fault t source).FirstFault f ↔
      ∃ s, source = some s ∧ s.FirstFault f)) ∧
    (∀ f text, (ErrorValue.within text e).FirstFault f ↔ e.FirstFault f) ∧
    ∀ failure : Failure, StatusTells failure.exitStatus (failure.trouble = .manager ·) := by
  refine ⟨?_, fun e' contexts' h => ?_, fun f g source => ErrorValue.firstFault_manager,
    fun f t source h => ErrorValue.firstFault_other h,
    fun f text => ErrorValue.firstFault_within, fun failure => ?_⟩
  · exact (e.wrapped contexts).exitStatus_tells.congr fun f => ErrorValue.firstFault_wrapped
  · refine ErrorValue.exitStatus_congr fun f => ?_
    rw [ErrorValue.firstFault_wrapped, ErrorValue.firstFault_wrapped, h f]
  · exact failure.value.exitStatus_tells.congr fun f => Failure.firstFault_value

/-! ## 3. The text -/

/-- The faults that name no error behind them. -/
inductive Trouble.Alone : Trouble → Prop
  | missingArgument (what : String) : Alone (.manager (.missingArgument what))
  | deviceNotFound (id : String) : Alone (.manager (.deviceNotFound id))
  | failed (script : Path) (ending : Ending) (err : Bytes) :
      Alone (.script (.failed script ending err))
  | io (fault : IoFault) : Alone (.io fault)
  | plain (text : String) : Alone (.plain text)

namespace Trouble

variable {t : Trouble}

theorem cause?_eq_none_iff : t.cause? = none ↔ t.Alone := by
  constructor
  · intro h
    cases t with
    | manager f =>
      cases f with
      | missingArgument what => exact .missingArgument what
      | deviceNotFound id => exact .deviceNotFound id
      | _ => cases h
    | script f =>
      cases f with
      | failed script ending err => exact .failed script ending err
      | _ => cases h
    | io f => exact .io f
    | plain text => exact .plain text
    | _ => cases h
  · rintro (_ | _ | _ | _ | _) <;> rfl

theorem append_colon (front last cause : String) {words : String} (h : words = last ++ ": ") :
    front ++ words ++ cause = front ++ last ++ ": " ++ cause := by
  rw [h, ← String.append_assoc]

/-- The text of a fault of the key store file ends with the text of the error behind it. -/
theorem exists_front_store (f : StoreFault) :
    ∃ front, ∀ cause, f.messageWith cause = front ++ ": " ++ cause := by
  cases f with
  | corrupt path refusal =>
    exact ⟨_, fun cause => append_colon _ " is corrupt" cause rfl⟩
  | _ => exact ⟨_, fun _ => rfl⟩

/-- The text of a fault that names the error behind it ends with the text of that. -/
theorem exists_front (h : ¬t.Alone) :
    ∃ front, ∀ cause, t.messageWith cause = front ++ ": " ++ cause := by
  cases t with
  | manager f =>
    cases f with
    | missingArgument what => exact absurd (.missingArgument what) h
    | deviceNotFound id => exact absurd (.deviceNotFound id) h
    | store f => exact exists_front_store f
    | tableUnwritable path fault => exact ⟨_, fun _ => rfl⟩
    | outputFailed fault =>
      exact ⟨"failed to write to stdout", fun cause => congrArg (· ++ cause) rfl⟩
  | store f => exact exists_front_store f
  | config f => cases f <;> exact ⟨_, fun _ => rfl⟩
  | script f =>
    cases f with
    | failed script ending err => exact absurd (.failed script ending err) h
    | notStarted script fault => exact ⟨_, fun _ => rfl⟩
    | notUtf8 script fault =>
      exact ⟨_, fun cause => append_colon _ " produced non-UTF-8 output" cause rfl⟩
  | io f => exact absurd (.io f) h
  | plain text => exact absurd (.plain text) h

end Trouble

namespace ErrorValue

variable {e : ErrorValue} {t : Trouble} {source : Option ErrorValue}

theorem intercalate_colon (front cause : String) (behind : List String) : ∀ texts : List String,
    ": ".intercalate (texts ++ (front ++ ": " ++ cause) :: behind) =
      ": ".intercalate (texts ++ front :: cause :: behind)
  | [] => by
    cases behind with
    | nil => simp
    | cons text behind => simp [String.append_assoc]
  | text :: texts => by
    have ih := intercalate_colon front cause behind texts
    rw [List.cons_append, List.cons_append, String.intercalate_cons_of_ne_nil (by simp),
      String.intercalate_cons_of_ne_nil (by simp), ih]

/-- What is shown of an error in contexts are the contexts, its text and those of its sources. -/
theorem full_wrapped (contexts : List String) (e : ErrorValue) : (e.wrapped contexts).full =
    ": ".intercalate (contexts.reverse ++ e.message :: e.sources.map message) := by
  unfold full
  rw [map_message_chain_wrapped]
  rfl

theorem full_wrapped_eq_iff {contexts : List String} : (e.wrapped contexts).full =
    ": ".intercalate (contexts.reverse ++ [e.message]) ↔ e.sources = [] := by
  rw [full_wrapped]
  constructor
  · intro h
    refine Decidable.byContradiction fun hne => ?_
    rw [← List.singleton_append, ← List.append_assoc,
      String.intercalate_append_of_ne_nil (by simp) (by simpa using hne), String.append_assoc] at h
    -- at least a colon and a blank stand behind the text
    have hlen := congrArg String.length h
    simp at hlen
  · intro h
    rw [h]
    rfl

theorem sources_eq_nil_iff : (fault t source).sources = [] ↔ source = none := by
  cases source <;> simp [sources]

end ErrorValue

/-- A fault with the error behind it has the text of the fault. -/
theorem Trouble.message_value (t : Trouble) : t.value.message = t.message := by
  unfold Trouble.value Trouble.message
  cases h : t.cause? with
  | none => simp [ErrorValue.message, Trouble.message, h]
  | some cause => rfl

theorem ErrorValue.full_wrapped_fault {t : Trouble} {front : String}
    (hfront : ∀ cause, t.messageWith cause = front ++ ": " ++ cause) (contexts : List String)
    (s : ErrorValue) : ((fault t (some s)).wrapped contexts).full =
      ": ".intercalate (contexts.reverse ++ front :: s.message :: s.chain.map message) := by
  have hmessage : (fault t (some s)).message = front ++ ": " ++ s.message := hfront s.message
  rw [full_wrapped, hmessage, intercalate_colon]
  rfl

/-- **What is shown of an error repeats the error behind it.**

    * The contexts from the outermost in and the text of the error itself are all that is shown of
      it just when it has no source.
    * The text of a fault that names the error behind it ends with the text of that. As it gives
      that error as its source, this text is shown twice, and the texts of all behind it follow.
    * For the failure that a run ends with, all that is shown are the contexts and its own text just
      when it names no error behind it. -/
theorem shown_repeats_cause (contexts : List String) (t : Trouble) :
    (∀ source, ((ErrorValue.fault t source).wrapped contexts).full =
      ": ".intercalate (contexts.reverse ++ [(ErrorValue.fault t source).message]) ↔
        source = none) ∧
    (t.Alone ∨ ∃ front, ∀ s, (ErrorValue.fault t (some s)).message = front ++ ": " ++ s.message ∧
      ((ErrorValue.fault t (some s)).wrapped contexts).full = ": ".intercalate
        (contexts.reverse ++ front :: s.message :: s.chain.map ErrorValue.message)) ∧
    (Failure.full ⟨t, contexts⟩ = ": ".intercalate (contexts.reverse ++ [t.message]) ↔ t.Alone) ∧
    ∀ cause, t.cause? = some cause → ∃ front, t.message = front ++ ": " ++ cause ∧
      Failure.full ⟨t, contexts⟩ =
        ": ".intercalate (contexts.reverse ++ [front, cause, cause]) := by
  refine ⟨fun source => ?_, ?_, ?_, fun cause hcause => ?_⟩
  · exact ErrorValue.full_wrapped_eq_iff.trans ErrorValue.sources_eq_nil_iff
  · by_cases halone : t.Alone
    · exact .inl halone
    · obtain ⟨front, hfront⟩ := Trouble.exists_front halone
      exact .inr ⟨front, fun s =>
        ⟨hfront s.message, ErrorValue.full_wrapped_fault hfront contexts s⟩⟩
  · rw [← t.message_value, ← Trouble.cause?_eq_none_iff]
    refine ErrorValue.full_wrapped_eq_iff.trans (ErrorValue.sources_eq_nil_iff.trans ?_)
    exact Option.map_eq_none_iff
  · have halone : ¬t.Alone := fun h => by
      rw [Trouble.cause?_eq_none_iff.mpr h] at hcause
      cases hcause
    obtain ⟨front, hfront⟩ := Trouble.exists_front halone
    have hvalue : t.value = .fault t (some (.fault (.plain cause) none)) := by
      unfold Trouble.value
      rw [hcause]
      rfl
    refine ⟨front, ?_, ?_⟩
    · unfold Trouble.message
      rw [hcause]
      exact hfront cause
    · unfold Failure.full Failure.value
      rw [hvalue]
      exact ErrorValue.full_wrapped_fault hfront contexts _

/-- A key store file that is a directory. -/
def directoryFailure : Failure :=
  ⟨.manager (.store (.unreadable (.ofString "keys.json") .isDirectory)), []⟩

/-- That the file is a directory is told twice. -/
theorem directory_is_told_twice :
    directoryFailure.full = "failed to read key store keys.json: " ++
      "Is a directory (os error 21): Is a directory (os error 21)" ∧
    directoryFailure.full ≠ ": ".intercalate [directoryFailure.trouble.message] := by
  decide +kernel

end DeviceKeys
