import VolumeNode.Proofs.Call.Requirements
import VolumeNode.Proofs.Text.Lower

/-!
# Capabilities that can be served

Which capabilities of a request are accepted, and what follows for mounting.

* Filesystems are named in capitals or small letters of ASCII, in no other way: `FsType.choose`
  gives `ext4` for an empty name, and otherwise the name in small letters if it is a supported one
  (`FsType.choose_eq_ok_iff`).
* `AccessMode.ofNumber` knows the numbers from 1 to 7, and 2 and 3 of them are for reading only
  (`AccessMode.readOnly?_ofNumber`).
* `Servable` is a capability that can be served, with its plan. **`MountPlan.exact_ofMessage`**:
  such capabilities are accepted with this plan, and all others are refused as invalid.
-/

namespace VolumeNode

/-! ## 1. Filesystems -/

namespace FsType

/-- A name with small letters for the capitals of ASCII. -/
def small (name : String) : String :=
  String.ofList (name.toList.map Char.toLower)

/-- A supported name is the lower case of the names that it is in small letters. -/
theorem toLower_eq_supported_iff {fsType : String} (h : fsType ∈ supported) (name : String) :
    Text.toLower name.toList = fsType.toList ↔ small name = fsType := by
  have hsupported : ∀ fsType ∈ supported,
      fsType.toList.all (fun c => Text.IsAscii c ∧ c ≠ 'k') = true := by decide
  have hplain : ∀ c ∈ fsType.toList, Text.IsAscii c ∧ c ≠ 'k' := by
    simpa using hsupported fsType h
  have hascii : ∀ c ∈ fsType.toList, Text.IsAscii c := fun c hc => (hplain c hc).1
  have hk : 'k' ∉ fsType.toList := fun hmem => (hplain 'k' hmem).2 rfl
  unfold small
  rw [Text.toLower_eq_iff hascii hk, ← String.toList_inj, String.toList_ofList]

theorem toLower_eq_nil_iff (name : String) : Text.toLower name.toList = [] ↔ name = "" := by
  have hascii : ∀ c ∈ ([] : List Char), Text.IsAscii c := fun _ hc => absurd hc List.not_mem_nil
  rw [Text.toLower_eq_iff hascii List.not_mem_nil, List.map_eq_nil_iff, ← String.toList_inj]
  rfl

/-- **A filesystem is the default one for an empty name, and otherwise a supported one that the name
    is up to capitals of ASCII.** -/
theorem choose_eq_ok_iff {name fsType : String} :
    choose name = .ok fsType ↔
      name = "" ∧ fsType = default ∨ small name = fsType ∧ fsType ∈ supported := by
  by_cases hname : name = ""
  · have hdefault : choose "" = .ok default := rfl
    have hother : ¬ (small "" = fsType ∧ fsType ∈ supported) := by
      rintro ⟨rfl, hmem⟩
      exact absurd hmem (by decide)
    rw [hname, hdefault, Except.ok.injEq, eq_comm]
    simp only [true_and, hother, or_false]
  have hempty : (String.ofList (Text.toLower name.toList)).isEmpty = false := by
    rw [← Bool.not_eq_true, String.isEmpty_iff, ← String.toList_inj, String.toList_ofList]
    exact fun hnil => hname ((toLower_eq_nil_iff name).1 hnil)
  have hlowered : ∀ fsType ∈ supported,
      String.ofList (Text.toLower name.toList) = fsType ↔ small name = fsType := by
    intro fsType hmem
    rw [← toLower_eq_supported_iff hmem, ← String.toList_inj, String.toList_ofList]
  unfold choose
  dsimp only
  rw [if_neg (by simp [hempty])]
  simp only [hname, false_and, false_or]
  constructor
  · intro h
    split at h
    · next hmem =>
      cases h
      rw [List.contains_iff_mem] at hmem
      exact ⟨(hlowered _ hmem).1 rfl, hmem⟩
    · cases h
  · rintro ⟨hsmall, hmem⟩
    rw [(hlowered fsType hmem).2 hsmall, if_pos (List.contains_iff_mem.2 hmem)]

/-- A filesystem that was chosen is chosen again under its own name. -/
theorem choose_again {name fsType : String} (h : choose name = .ok fsType) :
    choose fsType = .ok fsType := by
  have hsupported : ∀ fsType ∈ supported, choose fsType = .ok fsType := by decide +kernel
  rcases choose_eq_ok_iff.1 h with ⟨_, rfl⟩ | ⟨_, hmem⟩
  · exact hsupported default (by decide)
  · exact hsupported fsType hmem

end FsType

/-! ## 2. Modes -/

/-- The numbers from 1 to 7 are modes, and 2 and 3 are those for reading only. -/
theorem AccessMode.readOnly?_ofNumber (n : Int) :
    (ofNumber n).readOnly? = if 1 ≤ n ∧ n ≤ 7 then some (decide (n = 2 ∨ n = 3)) else none := by
  unfold ofNumber
  split
  case h_8 h1 h2 h3 h4 h5 h6 h7 =>
    rw [if_neg]
    · rfl
    · rintro ⟨hlow, hhigh⟩
      have hsome : n = 1 ∨ n = 2 ∨ n = 3 ∨ n = 4 ∨ n = 5 ∨ n = 6 ∨ n = 7 := by omega
      rcases hsome with h | h | h | h | h | h | h
      · exact h1 h
      · exact h2 h
      · exact h3 h
      · exact h4 h
      · exact h5 h
      · exact h6 h
      · exact h7 h
  all_goals rfl

/-! ## 3. Capabilities -/

namespace MountPlan

/-- A capability that can be served: it is there, asks for a mount with a filesystem that is
    supported, and has a mode that is known. -/
inductive Servable : Option CapabilityMessage → MountPlan → Prop
  | intro {name fsType : String} {mode : Int32} {readOnly : Bool} (flags : List String)
      (fs : name = "" ∧ fsType = "ext4" ∨
        FsType.small name = fsType ∧ fsType ∈ ["ext4", "ext3", "xfs"])
      (known : 1 ≤ mode.toInt ∧ mode.toInt ≤ 7)
      (reads : readOnly = true ↔ mode.toInt = 2 ∨ mode.toInt = 3) :
      Servable (some ⟨some (.mount name flags), some mode⟩) ⟨fsType, flags, readOnly⟩

/-- A capability is accepted exactly if it can be served, and is invalid otherwise. -/
structure Exact (m : Option CapabilityMessage) : Prop where
  accepted : ∀ plan, ofMessage m = .ok plan ↔ Servable m plan
  refused : (∀ plan, ¬ Servable m plan) → RefusedAs .invalidArgument (ofMessage m)
  /-- The filesystem of an accepted one is accepted once more, as it is. -/
  again : ∀ plan, ofMessage m = .ok plan → FsType.choose plan.fsType = .ok plan.fsType

/-- A plan asks for a filesystem and a mode. -/
theorem ofCapability_eq_ok_iff {c : Capability} {plan : MountPlan} :
    ofCapability c = .ok plan ↔ ∃ name, c.accessType = some (.mount name plan.flags) ∧
      FsType.choose name = .ok plan.fsType ∧ c.accessMode.readOnly? = some plan.readOnly := by
  unfold ofCapability
  cases c.accessType with
  | none => simp
  | some access =>
    cases access with
    | block => simp
    | mount name flags =>
      dsimp only
      cases hfs : FsType.choose name with
      | error e =>
        refine iff_of_false nofun ?_
        rintro ⟨_, haccess, hchoose, _⟩
        cases haccess
        rw [hfs] at hchoose
        cases hchoose
      | ok fsType =>
        dsimp only
        cases c.accessMode.readOnly? with
        | none => simp
        | some readOnly =>
          constructor
          · intro h
            cases h
            exact ⟨name, rfl, hfs, rfl⟩
          · rintro ⟨_, haccess, hchoose, hreads⟩
            cases haccess
            rw [hfs] at hchoose
            cases hchoose
            cases hreads
            rfl

theorem ofMessage_eq_ok_iff {m : Option CapabilityMessage} {plan : MountPlan} :
    ofMessage m = .ok plan ↔ Servable m plan := by
  constructor
  · intro h
    cases m with
    | none => cases h
    | some m =>
      obtain ⟨accessType, mode⟩ := m
      obtain ⟨fsType, flags, readOnly⟩ := plan
      obtain ⟨name, haccess, hfs, hreads⟩ := ofCapability_eq_ok_iff.1 h
      obtain rfl : accessType = some (.mount name flags) := haccess
      cases mode with
      | none => cases hreads
      | some mode =>
        change (AccessMode.ofNumber mode.toInt).readOnly? = some readOnly at hreads
        rw [AccessMode.readOnly?_ofNumber] at hreads
        split at hreads
        · next hknown =>
          refine .intro flags (FsType.choose_eq_ok_iff.1 hfs) hknown ?_
          rw [← Option.some.inj hreads, decide_eq_true_iff]
        · cases hreads
  · intro h
    cases h with
    | @intro name fsType mode readOnly flags fs known reads =>
      have hreads : (AccessMode.ofNumber mode.toInt).readOnly? = some readOnly := by
        rw [AccessMode.readOnly?_ofNumber, if_pos known, Option.some.injEq, Bool.eq_iff_iff,
          decide_eq_true_iff]
        exact reads.symm
      show ofCapability (Capability.ofMessage ⟨some (.mount name flags), some mode⟩) = .ok _
      rw [ofCapability_eq_ok_iff]
      exact ⟨name, rfl, FsType.choose_eq_ok_iff.2 fs, hreads⟩

/-- Every requirement of a capability is one of its validity. -/
theorem code_of_refused {m : Option CapabilityMessage} {e : Refusal} (h : ofMessage m = .error e) :
    e.code = .invalidArgument := by
  have hobeys := obeys_ofRequest (m.map Capability.ofMessage)
  have hsame : ∀ q ∈ capabilityRequirements (m.map Capability.ofMessage),
      q.code = .invalidArgument := by
    unfold capabilityRequirements
    simp
  change ofRequest _ = _ at h
  rw [h] at hobeys
  rcases allMet_or_firstUnmet (capabilityRequirements (m.map Capability.ofMessage)) with
    hmet | ⟨code, hunmet⟩
  · obtain ⟨plan, hplan⟩ := hobeys.passed hmet
    cases hplan
  · obtain ⟨q, hq, hcode⟩ := hunmet.exists_mem
    obtain ⟨_, he, hrefused⟩ := hobeys.refused code hunmet
    cases he
    rw [hrefused, ← hcode, hsame q hq]

/-- **Exactly the capabilities that can be served are accepted**, and the others are invalid. -/
theorem exact_ofMessage (m : Option CapabilityMessage) : Exact m where
  accepted plan := ofMessage_eq_ok_iff
  refused hnone := by
    cases h : ofMessage m with
    | ok plan => exact absurd (ofMessage_eq_ok_iff.1 h) (hnone plan)
    | error e => exact ⟨e, rfl, code_of_refused h⟩
  again plan h := by
    cases ofMessage_eq_ok_iff.1 h with
    | @intro name fsType mode readOnly flags fs known reads =>
      exact FsType.choose_again (FsType.choose_eq_ok_iff.2 fs)

end MountPlan

end VolumeNode
