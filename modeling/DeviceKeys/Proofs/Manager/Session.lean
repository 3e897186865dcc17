import DeviceKeys.Proofs.KeyFile
import DeviceKeys.Proofs.Manager.Run
import Mathlib.Data.List.Forall2

/-! # Operations in a row

Requests about single devices, made one after the other on the file at one path, each time with all
of the file to be read and written anew (`session`). They are set beside the same requests to a
mapping that is kept at hand (`answers`).

* `saved_of_stored`, `agrees_of_not_stored`: one request.
* `session_follows_mapping`: any number of them. The replies are the answers and the file keeps to
  the mapping, unless a first save has severed the path; and what is mapped at each point is the
  record that was stored last.
-/

namespace DeviceKeys.Manager

open FileSystem
open KeyFile (danglingLink pathThroughLink someKey)

variable {fs fs' : FileSystem} {p : Path} {key : DeviceKey} {s : KeyStore}

/-! ## 1. Requests -/

/-- What can be asked about one device. -/
inductive Request where
  | generate (deviceId manufacturerId : Option String)
  | exportKey (deviceId : Option String)
  | fetchManufacturerId (deviceId : Option String)

namespace Request

/-- The operation that is asked for. -/
def operation : Request → Operation
  | generate deviceId manufacturerId => .generate deviceId manufacturerId
  | exportKey deviceId => .exportKey deviceId
  | fetchManufacturerId deviceId => .fetchManufacturerId deviceId

/-- The ids for which a key is to be stored: both have to be given. -/
def stored? : Request → Option (String × String)
  | generate deviceId manufacturerId =>
    match given deviceId, given manufacturerId with
    | some id, some manufacturer => some (id, manufacturer)
    | _, _ => none
  | _ => none

theorem stored?_eq_some {r : Request} {id manufacturer : String}
    (h : r.stored? = some (id, manufacturer)) : ∃ deviceId manufacturerId,
      r = generate deviceId manufacturerId ∧ given deviceId = some id ∧
        given manufacturerId = some manufacturer := by
  cases r with
  | generate deviceId manufacturerId =>
    unfold stored? at h
    simp only at h
    split at h
    · rename_i hd hm
      cases h
      exact ⟨_, _, rfl, hd, hm⟩
    · cases h
  | exportKey deviceId => cases h
  | fetchManufacturerId deviceId => cases h

theorem missing_of_stored? {deviceId manufacturerId : Option String}
    (h : (generate deviceId manufacturerId).stored? = none) :
    given deviceId = none ∨ given manufacturerId = none := by
  unfold stored? at h
  simp only at h
  split at h
  · cases h
  · rename_i hne
    cases hd : given deviceId with
    | none => exact .inl rfl
    | some id =>
      cases hm : given manufacturerId with
      | none => exact .inr rfl
      | some manufacturer => exact absurd hm (hne id manufacturer hd)

/-- The record that a request stores for a device. -/
def record? (r : Request) (key : DeviceKey) (id : String) : Option KeyRecord :=
  match r.stored? with
  | some (device, manufacturer) => if id = device then some ⟨manufacturer, key⟩ else none
  | none => none

end Request

/-- The keys that are left when the first one has been drawn, or when none has. -/
def keysLeft (drawn : Bool) (keys : Nat → DeviceKey) : Nat → DeviceKey :=
  if drawn then fun i => keys (i + 1) else keys

/-! ## 2. The file and the mapping -/

/-- A key is drawn when both ids are given and the store has been loaded. -/
def draws (fs : FileSystem) (p : Path) (r : Request) : Bool :=
  r.stored?.isSome && (KeyFile.load fs p).toBool

/-- The replies to requests on the file at a path, with keys as they are drawn. Every output takes
    all that is printed. -/
def session (fs : FileSystem) (p : Path) (keys : Nat → DeviceKey) : List Request → List Reply
  | [] => []
  | r :: rest =>
    let reply := run fs p (keys 0) r.operation .unlimited
    reply :: session reply.fs p (keysLeft (draws fs p r) keys) rest

/-- What a mapping has to say to a request: the result, what is printed, and the mapping after. -/
structure Answer where
  result : Except ManagerFault Outcome
  printed : Bytes
  mapping : String → Option KeyRecord

/-- The answer that shows something of the record of a device. -/
def shown (mapping : String → Option KeyRecord) (deviceId : Option String)
    (value : KeyRecord → Bytes) : Answer :=
  match given deviceId with
  | none => ⟨.error (.missingArgument deviceIdOnly), [], mapping⟩
  | some id =>
    match mapping id with
    | none => ⟨.error (.deviceNotFound id), [], mapping⟩
    | some record => ⟨.ok .printed, value record, mapping⟩

/-- The answer to a request. -/
def answer (mapping : String → Option KeyRecord) (key : DeviceKey) : Request → Answer
  | .generate deviceId manufacturerId =>
    match given deviceId, given manufacturerId with
    | some id, some manufacturer =>
      ⟨.ok (.generated id manufacturer (mapping id).isSome), [],
        fun other => if other = id then some ⟨manufacturer, key⟩ else mapping other⟩
    | _, _ => ⟨.error (.missingArgument bothIds), [], mapping⟩
  | .exportKey deviceId =>
    shown mapping deviceId fun record => Utf8.ofString record.key.toHex ++ [0x0A]
  | .fetchManufacturerId deviceId =>
    shown mapping deviceId fun record => Utf8.ofString record.manufacturerId

/-- The answers to requests. -/
def answers (mapping : String → Option KeyRecord) (keys : Nat → DeviceKey) :
    List Request → List Answer
  | [] => []
  | r :: rest =>
    let a := answer mapping (keys 0) r
    a :: answers a.mapping (keysLeft r.stored?.isSome keys) rest

/-- A reply is an answer, and the file holds the mapping. -/
structure Agrees (p : Path) (reply : Reply) (a : Answer) : Prop where
  result : reply.result = a.result
  printed : reply.out.printed = a.printed
  loads : ∃ s, KeyFile.load reply.fs p = .ok s ∧ s.get? = a.mapping

/-- The key store file could not be written. -/
def unwritten (reply : Reply) : Bool :=
  match reply.result with
  | .error (.store (.unwritable _ _)) => true
  | _ => false

/-- The record that was stored last for a device. -/
def lastStored (keys : Nat → DeviceKey) (id : String) : List Request → Option KeyRecord
  | [] => none
  | r :: rest =>
    (lastStored (keysLeft r.stored?.isSome keys) id rest).or (r.record? (keys 0) id)

/-! ## 3. One request -/

theorem mapping_shown (mapping : String → Option KeyRecord) (deviceId : Option String)
    (value : KeyRecord → Bytes) : (shown mapping deviceId value).mapping = mapping := by
  unfold shown
  split
  · rfl
  · split <;> rfl

/-- What is printed of the record of a device is what the mapping shows of it. -/
theorem agrees_shown {deviceId : Option String} {pieces : KeyRecord → List Bytes}
    {value : KeyRecord → Bytes} (hl : KeyFile.load fs p = .ok s)
    (hv : ∀ record, (pieces record).flatten = value record) :
    Agrees p ⟨(print .unlimited ((selected fs p deviceId).map pieces)).1, fs,
        (print .unlimited ((selected fs p deviceId).map pieces)).2⟩
      (shown s.get? deviceId value) := by
  have hloads : ∃ s', KeyFile.load fs p = .ok s' ∧
      s'.get? = (shown s.get? deviceId value).mapping :=
    ⟨s, hl, (mapping_shown _ _ _).symm⟩
  cases hd : given deviceId with
  | none =>
    rw [selected_of_missing hd]
    exact ⟨by simp [shown, hd]; rfl, by simp [shown, hd]; rfl, hloads⟩
  | some id =>
    rw [selected_of_loaded hd hl, recordOf]
    cases hr : s.get? id with
    | none => exact ⟨by simp [shown, hd, hr]; rfl, by simp [shown, hd, hr]; rfl, hloads⟩
    | some record =>
      simp only [Except.map, print_unlimited, hv]
      exact ⟨by simp [shown, hd, hr], by simp [shown, hd, hr, Output.printed], hloads⟩

/-- A request that stores nothing leaves the file alone and is answered from the mapping. -/
theorem agrees_of_not_stored {r : Request} (hl : KeyFile.load fs p = .ok s) (hr : r.stored? = none)
    (key : DeviceKey) : (run fs p key r.operation .unlimited).fs = fs ∧
      (answer s.get? key r).mapping = s.get? ∧
      Agrees p (run fs p key r.operation .unlimited) (answer s.get? key r) := by
  cases r with
  | generate deviceId manufacturerId =>
    have hmissing := Request.missing_of_stored? hr
    have hanswer : answer s.get? key (.generate deviceId manufacturerId) =
        ⟨.error (.missingArgument bothIds), [], s.get?⟩ := by
      simp only [answer]
      rcases hmissing with h | h
      · rw [h]
      · rw [h]
        cases given deviceId <;> rfl
    simp only [Request.operation, run_generate, generate_of_missing hmissing, hanswer]
    exact ⟨trivial, trivial, rfl, rfl, s, hl, rfl⟩
  | exportKey deviceId =>
    simp only [Request.operation, run_exportKey, answer]
    refine ⟨trivial, mapping_shown _ _ _, agrees_shown hl fun record => ?_⟩
    simp [keyPieces, DeviceKey.toHex, Utf8.ofString]
  | fetchManufacturerId deviceId =>
    simp only [Request.operation, run_fetchManufacturerId, answer]
    refine ⟨trivial, mapping_shown _ _ _, agrees_shown hl fun record => ?_⟩
    simp [manufacturerPieces]

/-- A request that stores a record does so, unless the file cannot be written. -/
theorem saved_of_stored {r : Request} {id manufacturer : String}
    (hl : KeyFile.load fs p = .ok s) (hr : r.stored? = some (id, manufacturer))
    (hw : unwritten (run fs p key r.operation .unlimited) = false) : ∃ fs',
      KeyFile.save fs p (s.put id ⟨manufacturer, key⟩) = (.ok (), fs') ∧
      run fs p key r.operation .unlimited =
        ⟨.ok (.generated id manufacturer (s.get? id).isSome), fs', .unlimited⟩ := by
  obtain ⟨deviceId, manufacturerId, rfl, hd, hm⟩ := Request.stored?_eq_some hr
  simp only [Request.operation, run_generate] at hw ⊢
  have hcases := generate_cases fs p key deviceId manufacturerId
  generalize generate fs p key deviceId manufacturerId = g at hcases hw ⊢
  cases hcases with
  | missing h =>
    rw [hd, hm] at h
    rcases h with h | h <;> cases h
  | notLoaded h =>
    rw [hl] at h
    cases h
  | notSaved _ _ _ h =>
    obtain ⟨fault, rfl, -⟩ := KeyFile.replace_error_of_save h
    cases hw
  | @stored id' manufacturer' s' fs' hd' hm' hl' h =>
    obtain rfl : id = id' := Option.some.inj (hd.symm.trans hd')
    obtain rfl : manufacturer = manufacturer' := Option.some.inj (hm.symm.trans hm')
    obtain rfl : s = s' := Except.ok.inj (hl.symm.trans hl')
    exact ⟨fs', h, rfl⟩

/-- What a mapping answers to a request that stores a record. -/
theorem answer_of_stored {r : Request} {id manufacturer : String}
    (hr : r.stored? = some (id, manufacturer)) (s : KeyStore) (key : DeviceKey) :
    answer s.get? key r = ⟨.ok (.generated id manufacturer (s.get? id).isSome), [],
      (s.put id ⟨manufacturer, key⟩).get?⟩ := by
  obtain ⟨deviceId, manufacturerId, rfl, hd, hm⟩ := Request.stored?_eq_some hr
  have hget : (fun other => if other = id then some ⟨manufacturer, key⟩ else s.get? other) =
      (s.put id ⟨manufacturer, key⟩).get? :=
    funext fun other => (s.get?_put id other _).symm
  simp only [answer, hd, hm, hget]

/-- A saved store is held by the file just when the save has not severed the path. -/
theorem agrees_of_saved_iff {t : KeyStore} (hl : KeyFile.load fs p = .ok s)
    (h : KeyFile.save fs p t = (.ok (), fs')) (result : Except ManagerFault Outcome) :
    Agrees p ⟨result, fs', .unlimited⟩ ⟨result, [], t.get?⟩ ↔ fs.severs p = false := by
  have hiff := KeyFile.load_saved_iff h
  constructor
  · rintro ⟨-, -, t', hload, hget⟩
    rw [KeyStore.ext_get? (congrFun hget)] at hload
    exact (hiff.mp hload).2
  · intro hsev
    exact ⟨rfl, rfl, t, hiff.mpr ⟨KeyFile.length_lt_of_load hl, hsev⟩, rfl⟩

/-- What is mapped after a request is the record it stored, or else the one there was. -/
theorem mapping_answer (mapping : String → Option KeyRecord) (key : DeviceKey) (r : Request)
    (id : String) : (answer mapping key r).mapping id = (r.record? key id).or (mapping id) := by
  cases r with
  | generate deviceId manufacturerId =>
    simp only [answer, Request.record?, Request.stored?]
    cases given deviceId with
    | none => rfl
    | some device =>
      cases given manufacturerId with
      | none => rfl
      | some manufacturer =>
        simp only
        by_cases hid : id = device <;> simp [hid]
  | exportKey deviceId => simp [answer, mapping_shown, Request.record?, Request.stored?]
  | fetchManufacturerId deviceId => simp [answer, mapping_shown, Request.record?, Request.stored?]

/-! ## 4. Requests in a row -/

theorem draws_of_load (hl : KeyFile.load fs p = .ok s) (r : Request) :
    draws fs p r = r.stored?.isSome := by
  unfold draws
  rw [hl]
  simp [Except.toBool]

/-- **When the replies are the answers.** The induction keeps to a store that is loaded; it is the
    first save that decides, since from then on the path leads to a file. -/
theorem forall₂_agrees_iff {requests : List Request} {keys : Nat → DeviceKey}
    (hl : KeyFile.load fs p = .ok s)
    (hw : ∀ reply ∈ session fs p keys requests, unwritten reply = false) :
    List.Forall₂ (Agrees p) (session fs p keys requests) (answers s.get? keys requests) ↔
      fs.severs p = false ∨ ∀ r ∈ requests, r.stored? = none := by
  induction requests generalizing fs s keys with
  | nil => simp [session, answers]
  | cons r rest ih =>
    simp only [session, answers, List.forall₂_cons, draws_of_load hl, List.mem_cons,
      forall_eq_or_imp] at hw ⊢
    obtain ⟨hw, hwrest⟩ := hw
    cases hr : r.stored? with
    | none =>
      obtain ⟨hfs, hmap, hagrees⟩ := agrees_of_not_stored hl hr (keys 0)
      rw [hr, hfs] at hwrest
      rw [hfs, hmap, ih hl hwrest]
      simp [hagrees]
    | some ids =>
      obtain ⟨id, manufacturer⟩ := ids
      obtain ⟨fs', hsave, hrun⟩ := saved_of_stored hl hr hw
      rw [hr, hrun] at hwrest
      rw [hrun, answer_of_stored hr, agrees_of_saved_iff hl hsave]
      cases hsev : fs.severs p with
      | false =>
        -- from here on the path leads to a file, and no save severs it
        have hread := KeyFile.read_saved hsave (KeyFile.length_lt_of_load hl) hsev
        have hrest := (ih (KeyFile.load_of_read_saved hread) hwrest).mpr
          (.inl (severs_eq_false_of_read hread))
        exact ⟨fun _ => .inl rfl, fun _ => ⟨rfl, hrest⟩⟩
      | true =>
        constructor
        · rintro ⟨h, -⟩
          cases h
        · rintro (h | ⟨h, -⟩) <;> cases h

/-- What is mapped after some of the requests is the record that was stored last, or else the one
    that was there. -/
theorem mapping_answers {requests : List Request} {mapping : String → Option KeyRecord}
    {keys : Nat → DeviceKey} {i : Nat} {a : Answer}
    (h : (answers mapping keys requests)[i]? = some a) (id : String) :
    a.mapping id = (lastStored keys id (requests.take (i + 1))).or (mapping id) := by
  induction requests generalizing mapping keys i with
  | nil => cases h
  | cons r rest ih =>
    cases i with
    | zero =>
      cases h
      simp [mapping_answer, lastStored]
    | succ i =>
      rw [List.take_succ_cons, lastStored, Option.or_assoc, ← mapping_answer]
      exact ih h

/-- The answer beside a reply. -/
theorem exists_answer {i : Nat} {reply : Reply} {l : List Answer} {replies : List Reply}
    (h : List.Forall₂ (Agrees p) replies l) (hr : replies[i]? = some reply) :
    ∃ a, l[i]? = some a ∧ Agrees p reply a := by
  induction h generalizing i with
  | nil => cases hr
  | cons hab _ ih =>
    cases i with
    | zero =>
      cases hr
      exact ⟨_, rfl, hab⟩
    | succ i => exact ih hr

/-- **Requests on a file are requests to a mapping.** If a store loads at the start and the file can
    be written whenever that is tried, each reply has the result and the printed bytes of the answer
    of the mapping, and the file then loads as the mapping, just when the path is not severed or no
    record is to be stored. So at each point the file holds for every id the record that was stored
    for it last, and the one it held at the start if none was. -/
theorem session_follows_mapping (fs : FileSystem) (p : Path) (keys : Nat → DeviceKey)
    (requests : List Request) (s : KeyStore) (hl : KeyFile.load fs p = .ok s)
    (hw : ∀ reply ∈ session fs p keys requests, unwritten reply = false) :
    (List.Forall₂ (Agrees p) (session fs p keys requests) (answers s.get? keys requests) ↔
      fs.severs p = false ∨ ∀ r ∈ requests, r.stored? = none) ∧
    ((fs.severs p = false ∨ ∀ r ∈ requests, r.stored? = none) →
      ∀ i reply, (session fs p keys requests)[i]? = some reply →
        ∃ s', KeyFile.load reply.fs p = .ok s' ∧ ∀ id, s'.get? id =
          (lastStored keys id (requests.take (i + 1))).or (s.get? id)) := by
  have hiff := forall₂_agrees_iff hl hw
  refine ⟨hiff, fun hkept i reply hreply => ?_⟩
  obtain ⟨a, ha, hagrees⟩ := exists_answer (hiff.mpr hkept) hreply
  obtain ⟨s', hload, hget⟩ := hagrees.loads
  exact ⟨s', hload, fun id => by rw [hget, mapping_answers ha]⟩

/-- A device is stored in a new file and its key is printed. -/
theorem session_on_new_file :
    List.Forall₂ (Agrees (Path.ofString "keys.json"))
      (session FileSystem.empty (Path.ofString "keys.json") (fun _ => someKey)
        [.generate (some "d") (some "m"), .exportKey (some "d")])
      (answers KeyStore.empty.get? (fun _ => someKey)
        [.generate (some "d") (some "m"), .exportKey (some "d")]) := by
  have hread : FileSystem.empty.read (Path.ofString "keys.json") = .error .noEntry := by rfl
  have hsev : FileSystem.empty.severs (Path.ofString "keys.json") = false := by decide +kernel
  exact (session_follows_mapping FileSystem.empty (Path.ofString "keys.json") (fun _ => someKey)
    [.generate (some "d") (some "m"), .exportKey (some "d")] KeyStore.empty
    (KeyFile.load_of_noEntry hread) (by decide +kernel)).1.mpr (.inl hsev)

/-- A device is stored by way of the link that the new file takes the place of. The file no longer
    holds what is mapped. -/
theorem session_leaves_mapping :
    KeyFile.load danglingLink pathThroughLink = .ok KeyStore.empty ∧
    (∀ reply ∈ session danglingLink pathThroughLink (fun _ => someKey)
      [.generate (some "d") (some "m")], unwritten reply = false) ∧
    ¬ List.Forall₂ (Agrees pathThroughLink)
      (session danglingLink pathThroughLink (fun _ => someKey) [.generate (some "d") (some "m")])
      (answers KeyStore.empty.get? (fun _ => someKey) [.generate (some "d") (some "m")]) := by
  have hread : danglingLink.read pathThroughLink = .error .noEntry := by rfl
  have hl := KeyFile.load_of_noEntry hread
  have hw : ∀ reply ∈ session danglingLink pathThroughLink (fun _ => someKey)
      [.generate (some "d") (some "m")], unwritten reply = false := by
    decide +kernel
  have hsev : danglingLink.severs pathThroughLink = true := by decide +kernel
  refine ⟨hl, hw, ?_⟩
  rw [forall₂_agrees_iff hl hw, hsev]
  decide

end DeviceKeys.Manager
