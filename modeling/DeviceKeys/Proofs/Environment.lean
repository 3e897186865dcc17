import DeviceKeys.Environment
import DeviceKeys.Proofs.Text.Decoding

/-! # What counts of a variable

* `Overrides`: the bytes of a variable are those of a text with more in it than white space. The
  path that it gives is this text, byte for byte (`path?_eq_some_iff`).
* `Blank`: the bytes are those of a text of white space. A value that is not blank counts if it is a
  text at all (`path?_of_isText`), and else the variable is as good as not set
  (`path?_of_not_isText`, `without`).
-/

namespace DeviceKeys.Environment

variable {env env' : Environment} {name other value : String} {v : Bytes} {p : Path}

/-! ## 1. As a text -/

/-- The variable is set to a text with more in it than white space. -/
def Overrides (env : Environment) (name value : String) : Prop :=
  env.bindings.lookup name = some (Utf8.ofString value) ∧
    ∃ c ∈ value.toList, Text.isBlankChar c = false

theorem isBlank_eq_false_iff :
    Text.isBlank value = false ↔ ∃ c ∈ value.toList, Text.isBlankChar c = false := by
  unfold Text.isBlank
  exact List.all_eq_false.trans (by simp)

theorem text?_eq_some_iff :
    env.text? name = some value ↔ env.bindings.lookup name = some (Utf8.ofString value) := by
  unfold text?
  rw [Option.bind_eq_some_iff]
  constructor
  · rintro ⟨v, hv, hvalue⟩
    rw [hv, Utf8.toString?_eq_some_iff.mp hvalue]
  · exact fun h => ⟨_, h, Utf8.toString?_ofString value⟩

/-- A variable gives the text that it is set to, if that counts, as a path. -/
theorem path?_eq_some_iff :
    env.path? name = some p ↔ ∃ value, env.Overrides name value ∧ p = Path.ofString value := by
  unfold path? Overrides
  simp only [Option.map_eq_some_iff, Option.filter_eq_some_iff, Bool.not_eq_true',
    isBlank_eq_false_iff, text?_eq_some_iff, eq_comm (a := p)]

theorem path?_eq_none_iff : env.path? name = none ↔ ∀ value, ¬env.Overrides name value := by
  constructor
  · intro hnone value h
    have hsome := path?_eq_some_iff.mpr ⟨value, h, rfl⟩
    rw [hnone] at hsome
    cases hsome
  · intro h
    cases hp : env.path? name with
    | none => rfl
    | some p =>
      obtain ⟨value, hvalue, -⟩ := path?_eq_some_iff.mp hp
      exact absurd hvalue (h value)

/-- Nothing but what overrides by a variable counts for its path. -/
theorem path?_congr (h : ∀ value, env'.Overrides name value ↔ env.Overrides name value) :
    env'.path? name = env.path? name := by
  refine Option.ext fun p => ?_
  rw [path?_eq_some_iff, path?_eq_some_iff]
  simp only [h]

/-! ## 2. As bytes -/

/-- The bytes are those of a text that holds nothing but white space. -/
def Blank (v : Bytes) : Prop := ∃ s : String, v = Utf8.ofString s ∧ Text.isBlank s = true

theorem blank_ofString_iff {s : String} : Blank (Utf8.ofString s) ↔ Text.isBlank s = true := by
  constructor
  · rintro ⟨s', hs, hblank⟩
    have hread := Utf8.toString?_ofString s
    rw [hs, Utf8.toString?_ofString] at hread
    rwa [Option.some.inj hread] at hblank
  · intro hblank
    exact ⟨s, rfl, hblank⟩

theorem not_blank_of_not_isText (h : ¬Utf8.IsText v) : ¬Blank v :=
  fun ⟨s, hs, _⟩ => h ⟨s.toList, hs⟩

/-- The environment in which a variable is not set. -/
def without (env : Environment) (name : String) : Environment :=
  ⟨env.bindings.filter fun b => b.1 ≠ name⟩

theorem lookup_without (env : Environment) (name : String) : ∀ other : String,
    (env.without name).bindings.lookup other =
      if other = name then none else env.bindings.lookup other := by
  intro other
  unfold without
  simp only
  induction env.bindings with
  | nil => simp
  | cons b rest ih =>
    by_cases hb : b.1 = name
    · rw [List.filter_cons_of_neg (by simp [hb]), ih]
      by_cases ho : other = name
      · simp [ho]
      · have hne : (other == b.1) = false := by simp [hb, ho]
        rw [List.lookup_cons, hne]
    · rw [List.filter_cons_of_pos (by simp [hb]), List.lookup_cons, List.lookup_cons, ih]
      by_cases ho : other = b.1
      · simp [ho, hb]
      · have hne : (other == b.1) = false := by simp [ho]
        rw [hne]

theorem overrides_without_of_ne (h : other ≠ name) :
    (env.without name).Overrides other value ↔ env.Overrides other value := by
  unfold Overrides
  rw [lookup_without, if_neg h]

theorem path?_without_self : (env.without name).path? name = none := by
  refine path?_eq_none_iff.mpr fun value h => ?_
  have hset := h.1
  rw [lookup_without, if_pos rfl] at hset
  cases hset

/-- A value that is a text and not blank is the path, byte for byte. -/
theorem path?_of_isText (h : env.bindings.lookup name = some v) (hblank : ¬Blank v)
    (htext : Utf8.IsText v) : env.path? name = some ⟨v⟩ := by
  obtain ⟨cs, rfl⟩ := htext
  have hs : Utf8.encode cs = Utf8.ofString (String.ofList cs) := by simp [Utf8.ofString]
  rw [hs] at h hblank ⊢
  refine path?_eq_some_iff.mpr ⟨String.ofList cs, ⟨h, ?_⟩, rfl⟩
  refine isBlank_eq_false_iff.mp ?_
  cases hb : Text.isBlank (String.ofList cs) with
  | false => rfl
  | true => exact absurd ⟨_, rfl, hb⟩ hblank

/-- A value that is no text does not count. -/
theorem path?_of_not_isText (h : env.bindings.lookup name = some v) (htext : ¬Utf8.IsText v) :
    env.path? name = none := by
  refine path?_eq_none_iff.mpr fun value hvalue => htext ⟨value.toList, ?_⟩
  exact Option.some.inj (h.symm.trans hvalue.1)

end DeviceKeys.Environment
