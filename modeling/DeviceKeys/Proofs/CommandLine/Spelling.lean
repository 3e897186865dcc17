import Mathlib.Data.List.Nodup
import Mathlib.Data.List.TakeWhile
import DeviceKeys.Arguments
import DeviceKeys.Proofs.Text.Utf8

/-! # How an option is spelled out and read

An option can be spelled out in more than one way: its value is joined to it, or stands apart.

* `Given`: an option with its value, or a flag. `Spells`, `SpellsAll`: the arguments that give it,
  and those that give several such things in turn.
* `Scan.Holds`: some things have been read, though the last value may not have been judged yet.
* `run_of_spells`: what the reading of one thing adds to what has been read, however it is spelled
  out; `run_of_spellsAll`: what the reading of several things adds.
-/

namespace DeviceKeys

/-! ## 1. The ways to spell -/

/-- The name of an option that takes a value. -/
def ValueOption.name : ValueOption → String
  | .projectRoot => "project-root"
  | .keysFile => "keys-file"
  | .deviceId => "dev-id"
  | .manufacturerId => "manufacturer-id"
  | .cmakeDump => "cmake-dump"

/-- The name of a flag. -/
def Flag.name : Flag → String
  | .generate => "generate"
  | .exportKey => "export-key"

/-- Something that arguments give: an option with its value, or a flag. -/
inductive Given where
  | value (o : ValueOption) (v : Bytes)
  | flag (f : Flag)
  deriving DecidableEq

/-- The arguments that give it. A value can stand apart unless it starts with a hyphen and is not
    just a hyphen. -/
inductive Spells : Given → List Bytes → Prop
  | joined (o : ValueOption) (v : Bytes) :
      Spells (.value o v) [Utf8.ofString ("--" ++ o.name ++ "=") ++ v]
  | apart (o : ValueOption) {v : Bytes} (plain : v.head? ≠ some 0x2D ∨ v = [0x2D]) :
      Spells (.value o v) [Utf8.ofString ("--" ++ o.name), v]
  | flag (f : Flag) : Spells (.flag f) [Utf8.ofString ("--" ++ f.name)]

/-- The arguments that give several things in turn. -/
inductive SpellsAll : List Given → List Bytes → Prop
  | nil : SpellsAll [] []
  | cons {g : Given} {gs : List Given} {args rest : List Bytes} (first : Spells g args)
      (others : SpellsAll gs rest) : SpellsAll (g :: gs) (args ++ rest)

namespace Given

/-- What is given, without the value. -/
def key : Given → ValueOption ⊕ Flag
  | .value o _ => .inl o
  | .flag f => .inr f

/-- It concerns every command, so that it may stand before the command. -/
def IsGlobal (g : Given) : Prop := g.key = .inl .projectRoot ∨ g.key = .inl .keysFile

/-- The value, if it is one that the option accepts. -/
def Accepted : Given → Prop
  | .value o v => Scan.judge o v = .ok ()
  | .flag _ => True

/-- Its name is known at a level. -/
def KnownAt (l : Level) : Given → Prop
  | .value o _ => l.longName? (Utf8.ofString o.name) = some (.value o)
  | .flag f => l.longName? (Utf8.ofString f.name) = some (.flag f)

theorem knownAt_keymgr (g : Given) : g.KnownAt .keymgr := by
  cases g with
  | value o v => cases o <;> rfl
  | flag f => cases f <;> rfl

theorem IsGlobal.knownAt {g : Given} (h : g.IsGlobal) (l : Level) : g.KnownAt l := by
  cases g with
  | value o v =>
    rcases h with h | h <;> cases h <;> cases l <;> rfl
  | flag f => rcases h with h | h <;> cases h

/-- An option with its value. -/
def value? : Given → Option (ValueOption × Bytes)
  | .value o v => some (o, v)
  | .flag _ => none

/-- A flag. -/
def flag? : Given → Option Flag
  | .value _ _ => none
  | .flag f => some f

end Given

namespace Scan

variable {l : Level} {s t : Scan} {g : Given} {gs done : List Given} {args rest : List Bytes}
  {o : ValueOption} {v arg body : Bytes} {f : Flag}

/-! ## 2. What has been read -/

/-- The arguments read when some things have been given and nothing is pending. -/
def ofGivens (gs : List Given) : Scan := ⟨gs.filterMap Given.value?, gs.filterMap Given.flag?, none⟩

/-- Some things have been given, though the last value may not have been judged yet. -/
structure Holds (s : Scan) (gs : List Given) : Prop where
  settled : s.settle = .ok (ofGivens gs)
  ready : s.awaits = false

theorem holds_empty : empty.Holds [] := ⟨rfl, rfl⟩

theorem holds_ofGivens (gs : List Given) : (ofGivens gs).Holds gs := ⟨rfl, rfl⟩

theorem mem_values : (o, v) ∈ (ofGivens gs).values ↔ Given.value o v ∈ gs := by
  unfold ofGivens
  rw [List.mem_filterMap]
  constructor
  · rintro ⟨g, hg, h⟩
    cases g with
    | value o' v' =>
      cases h
      exact hg
    | flag f => cases h
  · intro h
    exact ⟨_, h, rfl⟩

theorem mem_flags : f ∈ (ofGivens gs).flags ↔ Given.flag f ∈ gs := by
  unfold ofGivens
  rw [List.mem_filterMap]
  constructor
  · rintro ⟨g, hg, h⟩
    cases g with
    | value o' v' => cases h
    | flag f' =>
      cases h
      exact hg
  · intro h
    exact ⟨_, h, rfl⟩

theorem values_cons_value : (ofGivens (.value o v :: gs)).values = (o, v) :: (ofGivens gs).values :=
  rfl

theorem values_cons_flag : (ofGivens (.flag f :: gs)).values = (ofGivens gs).values := rfl

theorem ofGivens_value : ofGivens (gs ++ [.value o v]) =
    { ofGivens gs with values := (ofGivens gs).values ++ [(o, v)] } := by
  unfold ofGivens
  rw [List.filterMap_append, List.filterMap_append]
  exact congrArg (Scan.mk _ · _) (List.append_nil _)

theorem ofGivens_flag : ofGivens (gs ++ [.flag f]) =
    { ofGivens gs with flags := (ofGivens gs).flags ++ [f] } := by
  unfold ofGivens
  rw [List.filterMap_append, List.filterMap_append]
  exact congrArg (Scan.mk · _ _) (List.append_nil _)

/-- Where no option is given twice, the value that is found is the one that was given. -/
theorem lookup_values (h : (gs.map Given.key).Nodup) :
    (ofGivens gs).values.lookup o = some v ↔ Given.value o v ∈ gs := by
  induction gs with
  | nil => simp [ofGivens]
  | cons g gs ih =>
    rw [List.map_cons, List.nodup_cons] at h
    cases g with
    | flag f =>
      rw [values_cons_flag, ih h.2]
      simp
    | value o' v' =>
      rw [values_cons_value, List.lookup_cons, List.mem_cons]
      by_cases ho : o = o'
      · subst ho
        rw [beq_self_eq_true]
        constructor
        · intro heq
          exact .inl (by rw [Option.some.inj heq])
        · rintro (heq | hmem)
          · cases heq
            rfl
          · exact absurd (List.mem_map_of_mem hmem) h.1
      · rw [beq_eq_false_iff_ne.mpr ho, ih h.2]
        simp [ho]

theorem lookup_values_eq_none (h : Sum.inl o ∉ gs.map Given.key) :
    (ofGivens gs).values.lookup o = none := by
  rw [List.lookup_eq_none_iff]
  rintro ⟨o', v⟩ hmem
  rw [bne_iff_ne]
  rintro rfl
  exact h (List.mem_map_of_mem (mem_values.mp hmem))

/-! ## 3. One option -/

/-- The value of an option is recorded, if it is accepted and the first one. -/
theorem record_ofGivens (hnew : Sum.inl o ∉ gs.map Given.key) (haccepted : judge o v = .ok ()) :
    (ofGivens gs).record o v = .ok (ofGivens (gs ++ [.value o v])) := by
  unfold record
  rw [lookup_values_eq_none hnew, haccepted, ofGivens_value]
  rfl

/-- An argument that starts with a hyphen is no word. -/
theorem not_word (body : Bytes) :
    isHelpWord (0x2D :: body) = false ∧ commandOf? (0x2D :: body) = none := by
  constructor
  · unfold isHelpWord
    rw [decide_eq_false_iff_not]
    intro h
    cases congrArg List.head? h
  · unfold commandOf?
    rw [Option.map_eq_none_iff, List.find?_eq_none]
    intro e he h
    have hhead := congrArg List.head? (of_decide_eq_true h)
    simp only [commandNames, List.mem_cons, List.not_mem_nil, or_false] at he
    rcases he with rfl | rfl <;> cases hhead

theorem run_dashes (hbody : body ≠ []) (rest : List Bytes) :
    run l false s ((0x2D :: 0x2D :: body) :: rest) =
      (s.long l body).bind fun t => run l false t rest := by
  obtain ⟨hhelp, hcommand⟩ := not_word (0x2D :: body)
  have hnone : (if (l = .top && !s.awaits) = true then commandOf? (0x2D :: 0x2D :: body)
      else none) = none := by
    rw [hcommand, ite_self]
  rw [run, hhelp, if_neg (by simp), hnone]
  · rfl
  · exact hbody

/-- The argument that is awaited is a value, unless it looks like an option. -/
theorem run_awaited (hawaits : s.awaits = true) (hplain : v.head? ≠ some 0x2D ∨ v = [0x2D])
    (rest : List Bytes) : run l false s (v :: rest) = run l false (s.take v) rest := by
  have hnone : (if (l = .top && !s.awaits) = true then commandOf? v else none) = none := by
    rw [hawaits, Bool.not_true, Bool.and_false, if_neg Bool.false_ne_true]
  rw [run, if_neg (by simp [hawaits]), hnone]
  · simp only [hawaits, if_true]
  all_goals
    intros
    subst v
    simp at hplain

theorem run_command {command : Level} (hready : s.awaits = false)
    (hhelp : isHelpWord arg = false) (hcommand : commandOf? arg = some command)
    (rest : List Bytes) : run .top false s (arg :: rest) =
      (run command false empty rest).bind fun r =>
        s.settle.bind fun t => .ok (t, some (command, r.1)) := by
  rw [run.eq_def]
  simp only [hhelp, hready, hcommand, Bool.false_eq_true, and_false, if_false, decide_true,
    Bool.not_false, Bool.and_self, if_true]
  rfl

/-- A name has no equals sign, so it ends where one stands. -/
theorem takeWhile_name {name : Bytes} (hname : 0x3D ∉ name) (v : Bytes) :
    (name ++ 0x3D :: v).takeWhile (· ≠ 0x3D) = name ∧ name.takeWhile (· ≠ 0x3D) = name := by
  have hall : ∀ b ∈ name, decide (b ≠ 0x3D) = true := fun b hb =>
    decide_eq_true fun heq => hname (heq ▸ hb)
  constructor
  · rw [List.takeWhile_append_of_pos hall, List.takeWhile_cons_of_neg (by simp), List.append_nil]
  · exact List.takeWhile_eq_self_iff.mpr hall

theorem long_joined {name : Bytes} (hname : 0x3D ∉ name)
    (hknown : l.longName? name = some (.value o)) (v : Bytes) :
    s.long l (name ++ 0x3D :: v) = s.settle.bind fun t => t.record o v := by
  unfold long
  rw [(takeWhile_name hname v).1]
  simp [hknown]
  rfl

theorem long_apart {name : Bytes} (hname : 0x3D ∉ name)
    (hknown : l.longName? name = some (.value o)) :
    s.long l name = s.settle.bind fun t => .ok { t with pending := some (o, none) } := by
  unfold long
  rw [(takeWhile_name hname []).2]
  simp [hknown]
  rfl

theorem long_flag {name : Bytes} (hname : 0x3D ∉ name)
    (hknown : l.longName? name = some (.flag f)) : s.long l name =
      s.settle.bind fun t =>
        if f ∈ t.flags then .error .repeated else .ok { t with flags := t.flags ++ [f] } := by
  unfold long
  rw [(takeWhile_name hname []).2]
  simp [hknown]
  rfl

theorem hyphens_append (name : String) :
    Utf8.ofString ("--" ++ name) = 0x2D :: 0x2D :: Utf8.ofString name :=
  Utf8.ofString_append "--" name

/-- **What the reading of one option adds.** -/
theorem run_of_spells (hs : s.Holds done) (hknown : g.KnownAt l) (haccepted : g.Accepted)
    (hnew : g.key ∉ done.map Given.key) (h : Spells g args) :
    ∃ s' : Scan, s'.Holds (done ++ [g]) ∧
      ∀ rest, run l false s (args ++ rest) = run l false s' rest := by
  have hvalue : ∀ o : ValueOption, Utf8.ofString o.name ≠ [] ∧ 0x3D ∉ Utf8.ofString o.name := by
    intro o
    cases o <;> decide
  cases h with
  | joined o v =>
    refine ⟨_, holds_ofGivens _, fun rest => ?_⟩
    have hbody : Utf8.ofString ("--" ++ o.name ++ "=") ++ v =
        0x2D :: 0x2D :: (Utf8.ofString o.name ++ 0x3D :: v) := by
      rw [Utf8.ofString_append, hyphens_append]
      simp only [List.cons_append, List.append_assoc]
      rfl
    rw [hbody, List.singleton_append, run_dashes (by simp), long_joined (hvalue o).2 hknown,
      hs.settled]
    show (record _ o v).bind _ = _
    rw [record_ofGivens hnew haccepted]
    rfl
  | @apart o v hplain =>
    refine ⟨{ ofGivens done with pending := some (o, some v) },
      ⟨record_ofGivens hnew haccepted, rfl⟩, fun rest => ?_⟩
    rw [hyphens_append, List.cons_append, List.singleton_append, run_dashes (hvalue o).1,
      long_apart (hvalue o).2 hknown, hs.settled]
    show run l false { ofGivens done with pending := some (o, none) } (v :: rest) = _
    rw [run_awaited rfl hplain]
    rfl
  | flag f =>
    have hflag : Utf8.ofString f.name ≠ [] ∧ 0x3D ∉ Utf8.ofString f.name := by
      cases f <;> decide
    refine ⟨_, holds_ofGivens _, fun rest => ?_⟩
    have hfirst : f ∉ (ofGivens done).flags := fun hmem =>
      hnew (List.mem_map_of_mem (mem_flags.mp hmem))
    rw [hyphens_append, List.singleton_append, run_dashes hflag.1, long_flag hflag.2 hknown,
      hs.settled]
    show (ite _ _ _ : Except _ _).bind _ = _
    rw [if_neg hfirst, ofGivens_flag]
    rfl

/-- **What the reading of several options adds**, if none is given twice. -/
theorem run_of_spellsAll (hs : s.Holds done) (hknown : ∀ g ∈ gs, g.KnownAt l)
    (haccepted : ∀ g ∈ gs, g.Accepted) (hnodup : ((done ++ gs).map Given.key).Nodup)
    (h : SpellsAll gs args) :
    ∃ s' : Scan, s'.Holds (done ++ gs) ∧
      ∀ rest, run l false s (args ++ rest) = run l false s' rest := by
  induction h generalizing s done with
  | nil => exact ⟨s, by rwa [List.append_nil], fun rest => rfl⟩
  | @cons g gs args others hfirst _ ih =>
    obtain ⟨hg, hgs⟩ := List.forall_mem_cons.mp hknown
    obtain ⟨ha, has⟩ := List.forall_mem_cons.mp haccepted
    have hnew : g.key ∉ done.map Given.key := by
      rw [List.map_append, List.map_cons, List.nodup_middle, List.nodup_cons] at hnodup
      exact fun hmem => hnodup.1 (List.mem_append_left _ hmem)
    rw [List.append_cons] at hnodup
    obtain ⟨s₁, hs₁, hrun₁⟩ := run_of_spells hs hg ha hnew hfirst
    obtain ⟨s₂, hs₂, hrun₂⟩ := ih hs₁ hgs has hnodup
    refine ⟨s₂, by rwa [← List.append_cons] at hs₂, fun rest => ?_⟩
    rw [List.append_assoc, hrun₁, hrun₂]

end Scan

end DeviceKeys
