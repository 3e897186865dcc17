import DeviceKeys.Proofs.FileSystem.Links
import DeviceKeys.Proofs.KeyFile
import DeviceKeys.Proofs.Manager.Run

/-! # What is written, and the links on the way to it

Contents are written to a path by one replacement, whether they are given as they are, are those of
a store or are a key table (`Writes`). `writes_go_through_links` says when that leaves every link of
the tree in place and puts the contents where the path points to, and what it leaves where it does
not: `dangling_link_is_lost` is a link whose target is not there yet.
-/

namespace DeviceKeys.Manager

open FileSystem
open KeyFile (danglingLink oneDevice exists_eq_ok)

variable {fs fs' : FileSystem} {p : Path} {data : Bytes}

/-- A call that writes contents to a path, and succeeds. -/
inductive Writes (fs : FileSystem) (p : Path) : Bytes → FileSystem → Prop
  | contents {data : Bytes} {fs' : FileSystem} (replaced : fs.replace p data = (.ok (), fs')) :
      Writes fs p data fs'
  | store {s : KeyStore} {fs' : FileSystem} (saved : KeyFile.save fs p s = (.ok (), fs')) :
      Writes fs p s.saved fs'
  | table {keys : Path} {s : KeyStore} {outcome : Outcome} {fs' : FileSystem}
      (loaded : KeyFile.load fs keys = .ok s) (dumped : dump fs keys p = (.ok outcome, fs')) :
      Writes fs p (Utf8.ofString s.keyTable) fs'

/-- Each of them is one replacement. -/
theorem replace_of_writes (h : Writes fs p data fs') : fs.replace p data = (.ok (), fs') := by
  cases h with
  | contents replaced => exact replaced
  | store saved => exact KeyFile.save_eq_ok_iff.mp saved
  | @table keys s outcome _ loaded dumped =>
    have hcases := dump_cases fs keys p
    rw [dumped] at hcases
    cases hcases with
    | written hl hrep =>
      cases loaded.symm.trans hl
      exact hrep

/-- **Writing goes through the links of a path** just when the path leads to a file and no path
    asked for on the way to it is too long, or its last component is no link. Every link, in the
    last place or on the way, is then as it was, and the contents are where the path points to.
    Otherwise just the link in the last place is lost: the contents take its place, every other link
    is as it was, and where the path points to there is no new file. -/
theorem writes_go_through_links (h : Writes fs p data fs') :
    (WrittenThrough fs p data fs' ↔ Resolved fs p ∨ ∀ x, ¬ EndsInLink fs p x) ∧
      (¬ WrittenThrough fs p data fs' → LinkLost fs p data fs') := by
  obtain ⟨l, name, hr⟩ := replace_eq_ok (replace_of_writes h)
  have hiff := hr.writtenThrough_iff
  refine ⟨hiff, fun hnot => ?_⟩
  rw [hiff, not_or, Classical.not_forall_not] at hnot
  obtain ⟨hres, x, hx⟩ := hnot
  exact hr.linkLost hres hx

/-- A file `keys.json`, the link `L` to it, and the link `K` to the link. -/
def linkedTwice : FileSystem :=
  linkedFile.put [Utf8.ofString "K"] (.link (Path.ofString "L"))

/-- A store saved through two links is in the file behind them. -/
theorem store_goes_through_two_links : ∃ fs' mode,
    KeyFile.save linkedTwice (Path.ofString "K") oneDevice = (.ok (), fs') ∧
      WrittenThrough linkedTwice (Path.ofString "K") oneDevice.saved fs' ∧
      fs'.get? [Utf8.ofString "keys.json"] = some (.file mode oneDevice.saved) := by
  have hok : (KeyFile.save linkedTwice (Path.ofString "K") oneDevice).1.toBool = true := by
    decide +kernel
  have hfile : linkedTwice.get? [Utf8.ofString "keys.json"] = some (.file 0o644 []) := by
    decide +kernel
  have hleads : LeadsToFile linkedTwice (Path.ofString "K") [Utf8.ofString "keys.json"] :=
    ⟨rfl, by rfl, _, _, hfile⟩
  obtain ⟨u, fs', hsave⟩ := exists_eq_ok hok
  obtain ⟨hiff, -⟩ := writes_go_through_links (.store hsave)
  have hthrough := hiff.mpr (.inl ⟨⟨_, hleads⟩, by decide +kernel⟩)
  obtain ⟨mode, hmode⟩ := hthrough.contents ⟨_, hleads.2.1, rfl⟩
  exact ⟨fs', mode, hsave, hthrough, hmode⟩

/-- A link to what is not there yet: the contents take its place, and not that of its target. -/
theorem dangling_link_is_lost : ∃ fs',
    danglingLink.replace (Path.ofString "L") [1] = (.ok (), fs') ∧
      danglingLink.get? [Utf8.ofString "L"] = some (.link (Path.ofString "x")) ∧
      PointsTo danglingLink (Path.ofString "L") [Utf8.ofString "x"] ∧
      fs'.get? [Utf8.ofString "L"] = some (.file 0o600 [1]) ∧
      fs'.get? [Utf8.ofString "x"] = none :=
  ⟨_, by rfl, by decide +kernel, ⟨.missing [] (Utf8.ofString "x"), by rfl, rfl⟩,
    by decide +kernel, by decide +kernel⟩

end DeviceKeys.Manager
