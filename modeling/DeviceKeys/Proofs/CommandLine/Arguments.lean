import DeviceKeys.Proofs.CommandLine.Spelling

/-! # What is spelled out as arguments is read back

The arguments of `keymgr` can say one thing in many ways: the options stand in any order, the two
that concern every command stand before the command or after it, and a value is joined to its option
or stands apart.

* `givens`: all that an invocation of `keymgr` gives, each thing once.
* `lookup_or`, `contains_after`: what has been read before the command and after it is all of that,
  and nothing else.
* `Selects`: the operation that flags select.
* `ofArguments_of_spelled`: however the invocation is spelled out, it is read back.
-/

namespace DeviceKeys

section Invocation

/-! ## 1. What is given -/

variable (root keysFile : Option Path) (flags : KeymgrFlags)

/-- The value that an invocation gives to an option. -/
def givenValue? : ValueOption → Option Bytes
  | .projectRoot => root.map Path.bytes
  | .keysFile => keysFile.map Path.bytes
  | .deviceId => flags.deviceId.map Utf8.ofString
  | .manufacturerId => flags.manufacturerId.map Utf8.ofString
  | .cmakeDump => flags.cmakeDump.map Path.bytes

/-- The flag is given. -/
def givenFlag : Flag → Bool
  | .generate => flags.generate
  | .exportKey => flags.exportKey

/-- All that an invocation gives. -/
def givens : List Given :=
  ([.projectRoot, .keysFile, .deviceId, .manufacturerId, .cmakeDump].filterMap fun o =>
    (givenValue? root keysFile flags o).map (Given.value o)) ++
    ([.generate, .exportKey].filter (givenFlag flags)).map Given.flag

variable {root keysFile flags} {o : ValueOption} {v : Bytes} {f : Flag}

theorem value_mem_givens :
    .value o v ∈ givens root keysFile flags ↔ givenValue? root keysFile flags o = some v := by
  cases o <;> simp [givens]

theorem flag_mem_givens : .flag f ∈ givens root keysFile flags ↔ givenFlag flags f = true := by
  cases f <;> simp [givens]

/-- Nothing is given twice. -/
theorem nodup_givens : ((givens root keysFile flags).map Given.key).Nodup := by
  unfold givens
  rw [List.map_append, List.map_filterMap, List.map_map, List.nodup_append]
  refine ⟨List.Nodup.filterMap ?_ (by decide), ?_, ?_⟩
  · intro o o' k hk hk'
    obtain ⟨g, hg, rfl⟩ := Option.map_eq_some_iff.mp hk
    obtain ⟨g', hg', heq⟩ := Option.map_eq_some_iff.mp hk'
    obtain ⟨v, -, rfl⟩ := Option.map_eq_some_iff.mp hg
    obtain ⟨v', -, rfl⟩ := Option.map_eq_some_iff.mp hg'
    exact (Sum.inl.inj heq).symm
  · exact List.Nodup.map (fun f f' heq => Sum.inr.inj heq) (List.Nodup.filter _ (by decide))
  · intro k hk k' hk'
    obtain ⟨o, -, hk⟩ := List.mem_filterMap.mp hk
    obtain ⟨g, hg, rfl⟩ := Option.map_eq_some_iff.mp hk
    obtain ⟨v, -, rfl⟩ := Option.map_eq_some_iff.mp hg
    obtain ⟨f, -, rfl⟩ := List.mem_map.mp hk'
    exact Sum.inl_ne_inr

theorem judge_path {path : Option Path} (h : path.map Path.bytes = some v)
    (hne : path ≠ some ⟨[]⟩) :
    (if v.isEmpty then Except.error ArgumentFault.invalidValue else .ok ()) = .ok () := by
  obtain ⟨p, rfl, rfl⟩ := Option.map_eq_some_iff.mp h
  rw [if_neg fun hempty => hne (congrArg (some ∘ Path.mk) (List.isEmpty_iff.mp hempty))]

theorem judge_text {text : Option String} (h : text.map Utf8.ofString = some v) :
    (if (Utf8.toString? v).isSome then Except.ok () else .error ArgumentFault.notUtf8) =
      .ok () := by
  obtain ⟨s, -, rfl⟩ := Option.map_eq_some_iff.mp h
  rw [Utf8.toString?_ofString]
  rfl

/-- Paths that are not empty are accepted, and so are all texts. -/
theorem accepted_of_mem_givens (hroot : root ≠ some ⟨[]⟩) (hkeys : keysFile ≠ some ⟨[]⟩)
    {g : Given} (h : g ∈ givens root keysFile flags) : g.Accepted := by
  cases g with
  | flag f => trivial
  | value o v =>
    rw [value_mem_givens] at h
    cases o with
    | projectRoot => exact judge_path h hroot
    | keysFile => exact judge_path h hkeys
    | deviceId | manufacturerId => exact judge_text h
    | cmakeDump => rfl

/-! ## 2. What has been read -/

/-- The values that two scans have read between them, one of which has read the options in front of
    the command and the other those behind it. -/
theorem lookup_or {before after : List Given}
    (hall : (before ++ after).Perm (givens root keysFile flags)) (o : ValueOption) :
    ((Scan.ofGivens after).values.lookup o).or ((Scan.ofGivens before).values.lookup o) =
      givenValue? root keysFile flags o := by
  have hall : (after ++ before).Perm (givens root keysFile flags) :=
    List.perm_append_comm.trans hall
  have hnodup : ((after ++ before).map Given.key).Nodup :=
    (hall.map Given.key).nodup_iff.mpr nodup_givens
  rw [← List.lookup_append]
  refine Option.ext fun v => ?_
  rw [← value_mem_givens, ← hall.mem_iff, ← Scan.lookup_values hnodup]
  unfold Scan.ofGivens
  rw [List.filterMap_append]

/-- What stands in front of the command gives no value to an option of the command. -/
theorem lookup_before {before : List Given} (h : ∀ g ∈ before, g.IsGlobal)
    (ho : o ≠ .projectRoot ∧ o ≠ .keysFile) : (Scan.ofGivens before).values.lookup o = none := by
  refine Scan.lookup_values_eq_none fun hmem => ?_
  obtain ⟨g, hg, hkey⟩ := List.mem_map.mp hmem
  rcases h g hg with hk | hk
  · exact ho.1 (Sum.inl.inj (hkey.symm.trans hk))
  · exact ho.2 (Sum.inl.inj (hkey.symm.trans hk))

/-- A scan in which an option has a path. -/
theorem path_of_lookup {s : Scan} {path : Option Path}
    (h : s.values.lookup o = path.map Path.bytes) : s.path? o = path := by
  unfold Scan.path?
  rw [h]
  cases path <;> rfl

/-- A scan in which an option has a text. -/
theorem text_of_lookup {s : Scan} {text : Option String}
    (h : s.values.lookup o = text.map Utf8.ofString) : s.text? o = text := by
  unfold Scan.text?
  rw [h]
  cases text with
  | none => rfl
  | some s => exact Utf8.toString?_ofString s

section Read

variable {before after : List Given} (hall : (before ++ after).Perm (givens root keysFile flags))
include hall

theorem pathOf_eq {path : Option Path}
    (ho : givenValue? root keysFile flags o = path.map Path.bytes) :
    ((Scan.ofGivens after).path? o).or ((Scan.ofGivens before).path? o) = path := by
  unfold Scan.path?
  rw [← Option.map_or, lookup_or hall, ho]
  cases path <;> rfl

variable (hglobal : ∀ g ∈ before, g.IsGlobal)
include hglobal

theorem lookup_after (ho : o ≠ .projectRoot ∧ o ≠ .keysFile) :
    (Scan.ofGivens after).values.lookup o = givenValue? root keysFile flags o := by
  rw [← lookup_or hall o, lookup_before hglobal ho, Option.or_none]

theorem contains_after (f : Flag) :
    (Scan.ofGivens after).flags.contains f = givenFlag flags f := by
  have hbefore : Given.flag f ∉ before := fun hmem => by
    rcases hglobal _ hmem with h | h <;> cases h
  rw [Bool.eq_iff_iff, List.contains_iff_mem, Scan.mem_flags, ← flag_mem_givens, ← hall.mem_iff,
    List.mem_append, or_iff_right hbefore]

/-- The flags that have been read behind the command are those that were given. -/
theorem keymgrFlags_after : (Scan.ofGivens after).keymgrFlags = flags := by
  have hlookup {o : ValueOption} (ho : o ≠ .projectRoot ∧ o ≠ .keysFile) :=
    lookup_after hall hglobal ho
  unfold Scan.keymgrFlags
  rw [contains_after hall hglobal, contains_after hall hglobal,
    text_of_lookup (hlookup (by decide)), text_of_lookup (hlookup (by decide)),
    path_of_lookup (hlookup (by decide))]
  rfl

end Read

/-! ## 3. An invocation of `keymgr` -/

/-- The operation that flags select. -/
inductive Selects (flags : KeymgrFlags) : Operation → Prop
  | generate (given : flags.generate = true) :
      Selects flags (.generate flags.deviceId flags.manufacturerId)
  | exportKey (no_generate : flags.generate = false) (given : flags.exportKey = true) :
      Selects flags (.exportKey flags.deviceId)
  | cmakeDump {output : Path} (no_generate : flags.generate = false)
      (no_export : flags.exportKey = false) (given : flags.cmakeDump = some output)
      (nonempty : output.bytes ≠ []) : Selects flags (.cmakeDump output)
  | fetchManufacturerId (no_generate : flags.generate = false) (no_export : flags.exportKey = false)
      (no_output : ∀ output, flags.cmakeDump = some output → output.bytes = []) :
      Selects flags (.fetchManufacturerId flags.deviceId)

theorem selects_operation (flags : KeymgrFlags) : Selects flags flags.operation := by
  unfold KeymgrFlags.operation
  split
  · rename_i hg
    exact .generate hg
  rename_i hg
  rw [Bool.not_eq_true] at hg
  split
  · rename_i he
    exact .exportKey hg he
  rename_i he
  rw [Bool.not_eq_true] at he
  split
  · rename_i output hfilter
    obtain ⟨hoc, hne⟩ := Option.filter_eq_some_iff.mp hfilter
    exact .cmakeDump hg he hoc (by simpa using hne)
  · rename_i hfilter
    refine .fetchManufacturerId hg he fun output hoc => ?_
    rw [hoc] at hfilter
    simpa using hfilter

/-- The whole reading: what stands in front of the command, and what stands behind it. -/
theorem run_of_spelled {before after : List Given} {front back : List Bytes}
    (hnodup : ((before ++ after).map Given.key).Nodup)
    (haccepted : ∀ g ∈ before ++ after, g.Accepted) (hglobal : ∀ g ∈ before, g.IsGlobal)
    (hfront : SpellsAll before front) (hback : SpellsAll after back) :
    Scan.run .top false .empty (front ++ Utf8.ofString "keymgr" :: back) =
      .ok (Scan.ofGivens before, some (.keymgr, Scan.ofGivens after)) := by
  rw [List.map_append] at hnodup
  obtain ⟨outer, houter, hrunFront⟩ := Scan.run_of_spellsAll Scan.holds_empty
    (fun g hg => (hglobal g hg).knownAt .top)
    (fun g hg => haccepted g (List.mem_append_left _ hg)) hnodup.of_append_left hfront
  obtain ⟨inner, hinner, hrunBack⟩ := Scan.run_of_spellsAll Scan.holds_empty
    (fun g _ => g.knownAt_keymgr)
    (fun g hg => haccepted g (List.mem_append_right _ hg)) hnodup.of_append_right hback
  have hinnerRun : Scan.run .keymgr false .empty back = .ok (Scan.ofGivens after, none) := by
    have h := hrunBack []
    rw [List.append_nil] at h
    rw [h, Scan.run, hinner.settled]
    rfl
  rw [hrunFront, Scan.run_command houter.ready (by decide) (by rfl), hinnerRun]
  show outer.settle.bind _ = _
  rw [houter.settled]
  rfl

/-- **However an invocation of `keymgr` is spelled out, it is read back.** Let a project root and a
    key file be given that are not empty, or not be given, and any flags, texts and paths besides.
    The options that give all this, each once, stand in any order, the project root and the key file
    before the command or after it, and every value is joined to its option or stands apart. Then
    the arguments are accepted, and what they say is what was given. The operation is the one that
    the first of generate, export-key and cmake-dump selects. -/
theorem ofArguments_of_spelled {before after : List Given} {front back : List Bytes}
    (hroot : root ≠ some ⟨[]⟩) (hkeys : keysFile ≠ some ⟨[]⟩)
    (hall : (before ++ after).Perm (givens root keysFile flags))
    (hglobal : ∀ g ∈ before, g.IsGlobal) (hfront : SpellsAll before front)
    (hback : SpellsAll after back) :
    Invocation.ofArguments (front ++ Utf8.ofString "keymgr" :: back) =
        .ok ⟨root, keysFile, .keymgr flags⟩ ∧
      Selects flags flags.operation := by
  refine ⟨?_, selects_operation flags⟩
  have hnodup : ((before ++ after).map Given.key).Nodup :=
    (hall.map Given.key).nodup_iff.mpr nodup_givens
  have haccepted : ∀ g ∈ before ++ after, g.Accepted := fun g hg =>
    accepted_of_mem_givens hroot hkeys (hall.mem_iff.mp hg)
  unfold Invocation.ofArguments
  rw [run_of_spelled hnodup haccepted hglobal hfront hback]
  show Except.ok (Invocation.mk _ _ (.keymgr _)) = _
  rw [pathOf_eq hall rfl, pathOf_eq hall rfl, keymgrFlags_after hall hglobal]

/-- Values that look like a command, like an option, or like nothing. -/
theorem ofArguments_of_lookalikes : Invocation.ofArguments
    (["--keys-file", "keymgr", "keymgr", "--dev-id=--generate=x", "--generate", "--project-root",
      "help", "--manufacturer-id", "-", "--cmake-dump="].map Utf8.ofString) =
    .ok ⟨some (Path.ofString "help"), some (Path.ofString "keymgr"),
      .keymgr ⟨true, some "--generate=x", some "-", false, some ⟨[]⟩⟩⟩ ∧
    Selects ⟨true, some "--generate=x", some "-", false, some ⟨[]⟩⟩
      (.generate (some "--generate=x") (some "-")) := by
  have hfront : SpellsAll [.value .keysFile (Utf8.ofString "keymgr")] _ :=
    .cons (.apart .keysFile (.inl (by decide))) .nil
  have hback : SpellsAll [.value .deviceId (Utf8.ofString "--generate=x"), .flag .generate,
      .value .projectRoot (Utf8.ofString "help"), .value .manufacturerId (Utf8.ofString "-"),
      .value .cmakeDump []] _ :=
    .cons (.joined .deviceId _) (.cons (.flag .generate) (.cons (.apart .projectRoot
      (.inl (by decide))) (.cons (.apart .manufacturerId (.inr rfl))
        (.cons (.joined .cmakeDump []) .nil))))
  have hglobal : ∀ g ∈ [Given.value .keysFile (Utf8.ofString "keymgr")], g.IsGlobal := by
    intro g hg
    rw [List.mem_singleton.mp hg]
    exact .inr rfl
  exact ofArguments_of_spelled (by decide) (by decide) (by decide +kernel) hglobal hfront hback

end Invocation

end DeviceKeys
