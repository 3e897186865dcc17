import DeviceKeys.Config

/-! # What a settings document gives

Of a document two tables are looked at, and one key in each (`PathSetting`).

* `ItemGives`: what an item gives that stands in the place of such a table. A table gives the text
  under the key, or nothing; a list stands for its first value, a date for a table without keys. All
  else is refused, and so is a table with something else than a text under the key.
* `PathSetting.GivenIn`: what a document gives for a setting, and `FitsShape`: it is refused for
  none.
* `ofDocument_eq_some_iff`: the settings of a document, which has any just when it fits the shape.
* `SameFor`: the items differ in other keys only, or a table without the key is missing. Documents
  that are the same for both settings have the same settings (`ofDocument_congr`).
-/

namespace DeviceKeys

/-! ## 1. The two settings -/

/-- One of the settings of a project. -/
inductive PathSetting where
  | keysFile
  | exportScript
  deriving DecidableEq

namespace PathSetting

/-- The table of the document that holds the setting. -/
def table : PathSetting → String
  | .keysFile => "keystore"
  | .exportScript => "compile_commands"

/-- The key of the setting in its table. -/
def key : PathSetting → String
  | .keysFile => "path"
  | .exportScript => "script"

/-- The variable that is put over the setting. -/
def variableName : PathSetting → String
  | .keysFile => "DEVKEYS_KEYS_FILE"
  | .exportScript => "DEVKEYS_EXPORT_SCRIPT"

/-- The setting of a project in which nothing names one. -/
def fallback : PathSetting → Path
  | .keysFile => .ofString "keys.json"
  | .exportScript => .ofString "scripts/export_compile_commands.sh"

/-- The setting among the settings of a project. -/
def of (c : Config) : PathSetting → Path
  | .keysFile => c.keysFile
  | .exportScript => c.exportScript

end PathSetting

/-! ## 2. Tables -/

/-- The entries of an item that is a table, under a header or in braces. -/
def Toml.Item.entries? : Toml.Item → Option (List (String × Toml.Item))
  | .headed _ entries => some entries
  | .braced _ entries => some entries
  | _ => none

/-- What an item in the place of a table gives for the key that counts in it: a text, or nothing. An
    item that gives neither is refused. -/
inductive ItemGives (key : String) : Toml.Item → Option String → Prop
  | lacking {item : Toml.Item} {entries : List (String × Toml.Item)}
      (table : item.entries? = some entries) (absent : entries.lookup key = none) :
      ItemGives key item none
  | holding {item : Toml.Item} {entries : List (String × Toml.Item)} {text : String}
      (table : item.entries? = some entries) (present : entries.lookup key = some (.text text)) :
      ItemGives key item (some text)
  | emptyList : ItemGives key (.list []) none
  | list {text : String} {rest : List Toml.Item} :
      ItemGives key (.list (.text text :: rest)) (some text)
  | moment : ItemGives key .moment none

/-- What a document gives for a setting. A document without the table gives nothing. -/
inductive PathSetting.GivenIn (s : PathSetting) (doc : Toml.Table) : Option String → Prop
  | noTable (absent : doc.find? s.table = none) : s.GivenIn doc none
  | table {item : Toml.Item} {given : Option String} (found : doc.find? s.table = some item)
      (gives : ItemGives s.key item given) : s.GivenIn doc given

/-- The document is refused for none of the settings. -/
def FitsShape (doc : Toml.Table) : Prop := ∀ s : PathSetting, ∃ given, s.GivenIn doc given

namespace Config

variable {doc doc' : Toml.Table} {c : Config} {key text : String} {given : Option String}
  {item : Toml.Item} {entries : List (String × Toml.Item)}

theorem textOf_eq_some_iff : textOf item = some text ↔ item = .text text := by
  cases item <;> simp [textOf]

theorem textUnder_eq_some_iff : textUnder entries key = some given ↔
    entries.lookup key = none ∧ given = none ∨
      ∃ text, entries.lookup key = some (.text text) ∧ given = some text := by
  unfold textUnder
  cases entries.lookup key with
  | none => simp [eq_comm]
  | some item =>
    simp only [Option.map_eq_some_iff, textOf_eq_some_iff, reduceCtorEq, false_and, false_or,
      Option.some.injEq]
    simp only [eq_comm (a := given)]

theorem itemGives_table_iff (table : item.entries? = some entries) :
    ItemGives key item given ↔ textUnder entries key = some given := by
  rw [textUnder_eq_some_iff]
  constructor
  · intro h
    cases h with
    | lacking table' absent =>
      cases table.symm.trans table'
      exact .inl ⟨absent, rfl⟩
    | holding table' present =>
      cases table.symm.trans table'
      exact .inr ⟨_, present, rfl⟩
    | emptyList | list | moment => cases table
  · rintro (⟨absent, rfl⟩ | ⟨text, present, rfl⟩)
    · exact .lacking table absent
    · exact .holding table present

theorem itemGives_list_iff {items : List Toml.Item} : ItemGives key (.list items) given ↔
    items = [] ∧ given = none ∨ ∃ text rest, items = .text text :: rest ∧ given = some text := by
  constructor
  · intro h
    cases h with
    | lacking table | holding table => cases table
    | emptyList => exact .inl ⟨rfl, rfl⟩
    | list => exact .inr ⟨_, _, rfl, rfl⟩
  · rintro (⟨rfl, rfl⟩ | ⟨text, rest, rfl, rfl⟩)
    · exact .emptyList
    · exact .list

theorem itemGives_moment_iff : ItemGives key .moment given ↔ given = none := by
  constructor
  · intro h
    cases h with
    | lacking table | holding table => cases table
    | moment => rfl
  · rintro rfl
    exact .moment

theorem givenIn_iff {s : PathSetting} : s.GivenIn doc given ↔
    doc.find? s.table = none ∧ given = none ∨
    ∃ item, doc.find? s.table = some item ∧ ItemGives s.key item given := by
  constructor
  · intro h
    cases h with
    | noTable absent => exact .inl ⟨absent, rfl⟩
    | table found gives => exact .inr ⟨_, found, gives⟩
  · rintro (⟨absent, rfl⟩ | ⟨item, found, gives⟩)
    · exact .noTable absent
    · exact .table found gives

/-- **What is read for a setting** is what the document gives. -/
theorem setting_eq_some_iff (s : PathSetting) :
    setting doc s.table s.key = some given ↔ s.GivenIn doc given := by
  rw [givenIn_iff]
  unfold setting
  cases doc.find? s.table with
  | none => simp [eq_comm]
  | some item =>
    simp only [reduceCtorEq, false_and, false_or, Option.some.injEq, exists_eq_left']
    cases item with
    | headed origin entries | braced origin entries => exact (itemGives_table_iff rfl).symm
    | list items =>
      rw [itemGives_list_iff]
      cases items with
      | nil => simp [eq_comm (a := none)]
      | cons item rest =>
        simp only [Option.map_eq_some_iff, textOf_eq_some_iff]
        constructor
        · rintro ⟨text, rfl, rfl⟩
          exact .inr ⟨text, rest, rfl, rfl⟩
        · rintro (⟨h, -⟩ | ⟨text, _, h, rfl⟩)
          · cases h
          · exact ⟨text, (List.cons.inj h).1, rfl⟩
    | moment => simp [itemGives_moment_iff, eq_comm]
    | text | scalar | headedList =>
      refine ⟨nofun, fun h => ?_⟩
      cases h with
      | lacking table | holding table => cases table

/-- A document gives one thing for a setting. -/
theorem given_unique {s : PathSetting} {given' : Option String} (h : s.GivenIn doc given)
    (h' : s.GivenIn doc given') : given' = given :=
  Option.some.inj (((setting_eq_some_iff s).mpr h').symm.trans ((setting_eq_some_iff s).mpr h))

/-! ## 3. The settings of a document -/

/-- **The settings of a document**: for each what the document gives, or the default. -/
theorem ofDocument_eq_some_iff : ofDocument doc = some c ↔ ∀ s : PathSetting, ∃ given,
    s.GivenIn doc given ∧ s.of c = (given.map Path.ofString).getD s.fallback := by
  have hdoc : ofDocument doc = some c ↔ ∃ keys script,
      setting doc PathSetting.keysFile.table PathSetting.keysFile.key = some keys ∧
      setting doc PathSetting.exportScript.table PathSetting.exportScript.key = some script ∧
      c = ⟨(keys.map Path.ofString).getD PathSetting.keysFile.fallback,
        (script.map Path.ofString).getD PathSetting.exportScript.fallback⟩ := by
    unfold ofDocument
    simp only [Option.bind_eq_bind, Option.bind_eq_some_iff, Option.some.injEq,
      exists_and_left, eq_comm (b := c)]
    rfl
  simp only [hdoc, setting_eq_some_iff]
  constructor
  · rintro ⟨keys, script, hkeys, hscript, rfl⟩ (_ | _)
    · exact ⟨keys, hkeys, rfl⟩
    · exact ⟨script, hscript, rfl⟩
  · intro h
    obtain ⟨keys, hkeys, hk⟩ := h .keysFile
    obtain ⟨script, hscript, hs⟩ := h .exportScript
    refine ⟨keys, script, hkeys, hscript, ?_⟩
    rw [← hk, ← hs]
    rfl

theorem exists_ofDocument_iff : (∃ c, ofDocument doc = some c) ↔ FitsShape doc := by
  simp only [ofDocument_eq_some_iff]
  constructor
  · rintro ⟨c, h⟩ s
    obtain ⟨given, hgiven, -⟩ := h s
    exact ⟨given, hgiven⟩
  · intro h
    obtain ⟨keys, hkeys⟩ := h .keysFile
    obtain ⟨script, hscript⟩ := h .exportScript
    refine ⟨⟨(keys.map Path.ofString).getD PathSetting.keysFile.fallback,
      (script.map Path.ofString).getD PathSetting.exportScript.fallback⟩, ?_⟩
    rintro (_ | _)
    · exact ⟨keys, hkeys, rfl⟩
    · exact ⟨script, hscript, rfl⟩

/-! ## 4. What does not count -/

/-- What two documents hold in the place of a table is the same but for other keys, or the table is
    missing from one of them and lacks the key in the other. -/
inductive SameFor (key : String) : Option Toml.Item → Option Toml.Item → Prop
  | same (o : Option Toml.Item) : SameFor key o o
  | otherKeys {item item' : Toml.Item} {entries entries' : List (String × Toml.Item)}
      (table : item.entries? = some entries) (table' : item'.entries? = some entries')
      (agree : entries'.lookup key = entries.lookup key) : SameFor key (some item) (some item')
  | missing {item : Toml.Item} {entries : List (String × Toml.Item)}
      (table : item.entries? = some entries) (absent : entries.lookup key = none) :
      SameFor key (some item) none
  | added {item : Toml.Item} {entries : List (String × Toml.Item)}
      (table : item.entries? = some entries) (absent : entries.lookup key = none) :
      SameFor key none (some item)

theorem itemGives_lacking_iff (table : item.entries? = some entries)
    (absent : entries.lookup key = none) : ItemGives key item given ↔ given = none := by
  rw [itemGives_table_iff table, textUnder_eq_some_iff, absent]
  simp

theorem givenIn_congr {s : PathSetting}
    (h : SameFor s.key (doc.find? s.table) (doc'.find? s.table)) :
    s.GivenIn doc' given ↔ s.GivenIn doc given := by
  rw [givenIn_iff, givenIn_iff]
  generalize doc.find? s.table = o at h ⊢
  generalize doc'.find? s.table = o' at h ⊢
  cases h with
  | same => rfl
  | otherKeys table table' agree =>
    simp [itemGives_table_iff table, itemGives_table_iff table', textUnder, agree]
  | missing table absent | added table absent => simp [itemGives_lacking_iff table absent]

/-- **Unknown keys and missing tables change nothing.** -/
theorem ofDocument_congr
    (h : ∀ s : PathSetting, SameFor s.key (doc.find? s.table) (doc'.find? s.table)) :
    ofDocument doc' = ofDocument doc := by
  refine Option.ext fun c => ?_
  simp only [ofDocument_eq_some_iff, givenIn_congr (h _)]

end Config

end DeviceKeys
