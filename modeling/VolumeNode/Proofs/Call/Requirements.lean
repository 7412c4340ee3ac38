import VolumeNode.Proofs.Call.Run

/-!
# What calls require

A call makes its checks one after another, and the first one that fails says how the call is
answered.

* A `Requirement` is something that has to hold, with the code of the answer if it does not. Of a
  row of requirements `FirstUnmet` is the code of the first one that fails.
* `Obeys` says that a check fails by the first of its requirements that is not met, and in no other
  case.
* The checks that calls share obey their requirements: `obeys_device`, `obeys_directoryCheck`,
  `obeys_targetCheck`, `obeys_makeTarget`, `obeys_ofRequest`.
-/

namespace VolumeNode

/-! ## 1. Requirements -/

/-- Something that has to hold, with the code of the answer if it does not. -/
structure Requirement where
  holds : Prop
  code : StatusCode

/-- The first requirement that is not met has this code. -/
inductive FirstUnmet : List Requirement → StatusCode → Prop
  | here {q : Requirement} {qs : List Requirement} (unmet : ¬ q.holds) : FirstUnmet (q :: qs) q.code
  | later {q : Requirement} {qs : List Requirement} {code : StatusCode} (met : q.holds)
      (h : FirstUnmet qs code) : FirstUnmet (q :: qs) code

/-- All requirements are met. -/
def AllMet (qs : List Requirement) : Prop :=
  ∀ q ∈ qs, q.holds

/-- An outcome is a refusal with this code. -/
def RefusedAs {α : Type} (code : StatusCode) (outcome : Except Refusal α) : Prop :=
  ∃ e, outcome = .error e ∧ e.code = code

theorem not_refusedAs_ok {α : Type} {code : StatusCode} {a : α} :
    ¬ RefusedAs code (.ok a : Except Refusal α) :=
  nofun

theorem RefusedAs.unique {α : Type} {code code' : StatusCode} {outcome : Except Refusal α}
    (h : RefusedAs code outcome) (h' : RefusedAs code' outcome) : code = code' := by
  obtain ⟨e, rfl, rfl⟩ := h
  obtain ⟨_, he, hcode⟩ := h'
  cases he
  exact hcode

/-- A check fails by the first of its requirements that is not met, and only then. -/
structure Obeys {α : Type} (qs : List Requirement) (x : Except Refusal α) : Prop where
  refused : ∀ code, FirstUnmet qs code → RefusedAs code x
  passed : AllMet qs → ∃ a, x = .ok a

section Requirements

variable {α : Type} {q : Requirement} {qs qs' : List Requirement} {code : StatusCode}

theorem allMet_cons : AllMet (q :: qs) ↔ q.holds ∧ AllMet qs :=
  List.forall_mem_cons

theorem allMet_append : AllMet (qs ++ qs') ↔ AllMet qs ∧ AllMet qs' :=
  List.forall_mem_append

/-- Of two rows the second one counts if all of the first is met. -/
theorem FirstUnmet.of_append (h : FirstUnmet (qs ++ qs') code) :
    FirstUnmet qs code ∨ AllMet qs ∧ FirstUnmet qs' code := by
  induction qs with
  | nil => exact .inr ⟨nofun, h⟩
  | cons q qs ih =>
    cases h with
    | here unmet => exact .inl (.here unmet)
    | later met h =>
      rcases ih h with hfirst | ⟨hmet, hsecond⟩
      · exact .inl (.later met hfirst)
      · exact .inr ⟨allMet_cons.2 ⟨met, hmet⟩, hsecond⟩

/-- Either all requirements are met or one is the first that is not. -/
theorem allMet_or_firstUnmet (qs : List Requirement) :
    AllMet qs ∨ ∃ code, FirstUnmet qs code := by
  induction qs with
  | nil => exact .inl nofun
  | cons q qs ih =>
    by_cases hq : q.holds
    · rcases ih with hall | ⟨code, hfirst⟩
      · exact .inl (allMet_cons.2 ⟨hq, hall⟩)
      · exact .inr ⟨code, .later hq hfirst⟩
    · exact .inr ⟨q.code, .here hq⟩

theorem FirstUnmet.exists_mem (h : FirstUnmet qs code) : ∃ q ∈ qs, q.code = code := by
  induction h with
  | here unmet => exact ⟨_, List.mem_cons_self, rfl⟩
  | later met h ih =>
    obtain ⟨q, hq, hcode⟩ := ih
    exact ⟨q, List.mem_cons_of_mem _ hq, hcode⟩

/-- What passes a check meets all its requirements. -/
theorem Obeys.allMet {x : Except Refusal α} (h : Obeys qs x) {a : α} (ha : x = .ok a) :
    AllMet qs := by
  refine (allMet_or_firstUnmet qs).resolve_right fun ⟨code, hcode⟩ => ?_
  have hrefused := h.refused code hcode
  rw [ha] at hrefused
  exact not_refusedAs_ok hrefused

theorem Obeys.nil (a : α) : Obeys [] (.ok a : Except Refusal α) :=
  ⟨nofun, fun _ => ⟨a, rfl⟩⟩

/-- A check with one requirement in front of its others. -/
theorem Obeys.cons {x : Except Refusal α} (hunmet : ¬ q.holds → RefusedAs q.code x)
    (hmet : q.holds → Obeys qs x) : Obeys (q :: qs) x where
  refused code h := by
    cases h with
    | here unmet => exact hunmet unmet
    | later met h => exact (hmet met).refused code h
  passed h := (hmet (allMet_cons.1 h).1).passed (allMet_cons.1 h).2

/-- A check that goes on where its first requirements are met. -/
theorem Obeys.append {β : Type} {x : Except Refusal α} {y : Except Refusal β} (hx : Obeys qs x)
    (hfail : ∀ e, x = .error e → y = .error e) (hy : ∀ a, x = .ok a → Obeys qs' y) :
    Obeys (qs ++ qs') y where
  refused code h := by
    rcases h.of_append with hfirst | ⟨hmet, hsecond⟩
    · obtain ⟨e, he, hcode⟩ := hx.refused code hfirst
      exact ⟨e, hfail e he, hcode⟩
    · obtain ⟨a, ha⟩ := hx.passed hmet
      exact (hy a ha).refused code hsecond
  passed h := by
    obtain ⟨hfirst, hsecond⟩ := allMet_append.1 h
    obtain ⟨a, ha⟩ := hx.passed hfirst
    exact (hy a ha).passed hsecond

/-- What is made of a value that passed is no matter of the requirements. -/
theorem Obeys.map {β : Type} {x : Except Refusal α} (h : Obeys qs x) (f : α → β) :
    Obeys qs (x.map f) where
  refused code hunmet := by
    obtain ⟨e, he, hcode⟩ := h.refused code hunmet
    exact ⟨e, by rw [he]; rfl, hcode⟩
  passed hmet := by
    obtain ⟨a, ha⟩ := h.passed hmet
    exact ⟨f a, by rw [ha]; rfl⟩

end Requirements

/-! ## 2. Requirements of the checks -/

/-- What a link to a device has to lead to. -/
def linkRequirements (t : FileTree) (link : List UInt8) : List Requirement :=
  [⟨∃ e, t.lstatBytes link = .ok e, .internal⟩,
    ⟨∃ place, t.realPlace link = .ok place, .internal⟩,
    ⟨∃ place e, t.realPlace link = .ok place ∧ t.statBytes place.path = .ok e, .internal⟩,
    ⟨∃ place e, t.realPlace link = .ok place ∧ t.statBytes place.path = .ok e ∧ e.isDevice = true,
      .internal⟩]

/-- What a volume has to be: named, attached, and found through its link. -/
def DeviceNaming.requirements (naming : DeviceNaming) (t : FileTree) (volume : String) :
    List Requirement :=
  ⟨volume ≠ "", .invalidArgument⟩ ::
    ⟨∃ names, t.readDirectory naming.directory = .ok names, .internal⟩ ::
    ⟨∃ names, t.readDirectory naming.directory = .ok names ∧
      ∃ n ∈ names, Text.ofBytes n = naming.linkOf volume, .notFound⟩ ::
    linkRequirements t (naming.linkPath volume)

/-- What makes a path plain. -/
def plainRequirements (path : String) : List Requirement :=
  [⟨path.toList.head? = some '/', .invalidArgument⟩,
    ⟨['.', '.'] ∉ PlainPath.components path, .invalidArgument⟩,
    ⟨∀ c ∈ path.toList, PlainPath.isControl c = false, .invalidArgument⟩]

/-- What a path of a request has to be. -/
def pathRequirements (path : String) : List Requirement :=
  ⟨path ≠ "", .invalidArgument⟩ :: plainRequirements path

/-- What a staging path has to lead to. -/
def directoryRequirements (t : FileTree) (path : String) : List Requirement :=
  [⟨t.stat path ≠ .error .noEntry, .failedPrecondition⟩,
    ⟨∃ e, t.stat path = .ok e, .internal⟩,
    ⟨∃ e, t.stat path = .ok e ∧ e.isDirectory = true, .failedPrecondition⟩]

/-- At a target there has to be something, or a directory can be made. -/
def madeRequirements (t : FileTree) (target : String) : List Requirement :=
  [⟨(∃ e, t.lstat target = .ok e) ∨ t.lstat target = .error .noEntry ∧
      ∃ t', t.makeDirectory target Handler.targetMode = .ok t', .internal⟩]

/-- What a capability has to say. -/
def capabilityRequirements (capability : Option Capability) : List Requirement :=
  [⟨∃ c, capability = some c, .invalidArgument⟩,
    ⟨∃ c fsType flags, capability = some c ∧ c.accessType = some (.mount fsType flags),
      .invalidArgument⟩,
    ⟨∃ c fsType flags, capability = some c ∧ c.accessType = some (.mount fsType flags) ∧
      (Text.toLower fsType.toList = [] ∨
        String.ofList (Text.toLower fsType.toList) ∈ ["ext4", "ext3", "xfs"]), .invalidArgument⟩,
    ⟨∃ c, capability = some c ∧ c.accessMode ≠ .unknown, .invalidArgument⟩]

/-! ## 3. The checks obey them -/

theorem obeys_deviceAt (t : FileTree) (link : List UInt8) (name volume : String) :
    Obeys (linkRequirements t link)
      ((DeviceNaming.deviceAt t link name).mapError (.unusableDevice volume)) := by
  unfold linkRequirements DeviceNaming.deviceAt
  refine .cons (fun hlstat => ?_) fun hlstat => ?_
  · cases hl : t.lstatBytes link with
    | ok e => exact absurd ⟨e, hl⟩ hlstat
    | error e => exact ⟨_, rfl, rfl⟩
  obtain ⟨entry, hl⟩ := hlstat
  simp only [hl]
  refine .cons (fun hreal => ?_) fun hreal => ?_
  · cases hc : t.realPlace link with
    | ok place => exact absurd ⟨place, hc⟩ hreal
    | error e => exact ⟨_, rfl, rfl⟩
  obtain ⟨place, hc⟩ := hreal
  simp only [hc]
  refine .cons (fun hstat => ?_) fun hstat => ?_
  · cases hs : t.statBytes place.path with
    | ok e => exact absurd ⟨place, e, rfl, hs⟩ hstat
    | error e => exact ⟨_, rfl, rfl⟩
  obtain ⟨_, e, hplace, hs⟩ := hstat
  cases hplace
  simp only [hs]
  refine .cons (fun hdevice => ?_) fun hdevice => ?_
  · have hno : e.isDevice = false :=
      eq_false_of_ne_true fun hyes => hdevice ⟨place, e, rfl, hs, hyes⟩
    rw [hno]
    exact ⟨_, rfl, rfl⟩
  obtain ⟨_, _, hplace, he, hyes⟩ := hdevice
  cases hplace
  rw [hs] at he
  cases he
  rw [if_pos hyes]
  exact .nil _

theorem obeys_device (naming : DeviceNaming) (t : FileTree) (volume : String) :
    Obeys (naming.requirements t volume) (naming.device t volume) := by
  unfold DeviceNaming.requirements DeviceNaming.device
  refine .cons (fun hvolume => ?_) fun hvolume => ?_
  · have hempty : volume = "" := Classical.not_not.1 hvolume
    rw [hempty]
    exact ⟨.volumeRequired, rfl, rfl⟩
  have hgiven : volume.isEmpty = false := by simpa using hvolume
  simp only [hgiven, Bool.false_eq_true, if_false]
  refine .cons (fun hlisted => ?_) fun hlisted => ?_
  · cases hread : t.readDirectory naming.directory with
    | ok names => exact absurd ⟨names, hread⟩ hlisted
    | error e => exact ⟨_, rfl, rfl⟩
  obtain ⟨names, hread⟩ := hlisted
  simp only [hread]
  refine .cons (fun hattached => ?_) fun hattached => ?_
  · have hnone : (names.any fun n => Text.ofBytes n == naming.linkOf volume) = false := by
      rw [List.any_eq_false]
      intro n hn heq
      exact hattached ⟨names, rfl, n, hn, beq_iff_eq.1 heq⟩
    rw [hnone]
    exact ⟨.notAttached volume, rfl, rfl⟩
  obtain ⟨_, hnames, n, hn, hlink⟩ := hattached
  cases hnames
  have hany : (names.any fun n => Text.ofBytes n == naming.linkOf volume) = true :=
    List.any_eq_true.2 ⟨n, hn, beq_iff_eq.2 hlink⟩
  rw [if_pos hany]
  exact obeys_deviceAt t _ _ volume

theorem obeys_check (path : String) : Obeys (plainRequirements path) (PlainPath.check path) := by
  unfold plainRequirements PlainPath.check
  refine .cons (fun hrooted => ?_) fun hrooted => ?_
  · rw [if_pos hrooted]
    exact ⟨_, rfl, rfl⟩
  rw [if_neg (not_not_intro hrooted)]
  refine .cons (fun htraversal => ?_) fun htraversal => ?_
  · rw [if_pos (Classical.not_not.1 htraversal)]
    exact ⟨_, rfl, rfl⟩
  rw [if_neg htraversal]
  refine .cons (fun hcontrol => ?_) fun hcontrol => ?_
  · have hany : path.toList.any PlainPath.isControl = true := by
      rw [← Bool.not_eq_false]
      intro hnone
      refine hcontrol fun c hc => eq_false_of_ne_true ?_
      exact List.any_eq_false.1 hnone c hc
    rw [if_pos hany]
    exact ⟨_, rfl, rfl⟩
  have hnone : path.toList.any PlainPath.isControl = false := by
    rw [List.any_eq_false]
    intro c hc
    rw [hcontrol c hc]
    exact Bool.false_ne_true
  rw [hnone]
  exact .nil ()

theorem obeys_targetCheck (path : String) :
    Obeys (pathRequirements path) (Handler.targetCheck path) := by
  unfold pathRequirements Handler.targetCheck
  refine .cons (fun hempty => ?_) fun hgiven => ?_
  · rw [Classical.not_not.1 hempty]
    exact ⟨_, rfl, rfl⟩
  · have hne : path.isEmpty = false := by simpa using hgiven
    rw [hne]
    exact obeys_check path

theorem obeys_directoryCheck (t : FileTree) (path : String) :
    Obeys (pathRequirements path ++ directoryRequirements t path)
      (Handler.directoryCheck t path) := by
  unfold pathRequirements Handler.directoryCheck
  refine .cons (fun hempty => ?_) fun hgiven => ?_
  · rw [Classical.not_not.1 hempty]
    exact ⟨_, rfl, rfl⟩
  have hne : path.isEmpty = false := by simpa using hgiven
  rw [hne]
  refine (obeys_check path).append (fun e he => ?_) fun u hplain => ?_
  · rw [he]
    rfl
  simp only [hplain, Bool.false_eq_true, if_false]
  unfold directoryRequirements
  refine .cons (fun hmissing => ?_) fun hthere => ?_
  · rw [Classical.not_not.1 hmissing]
    exact ⟨_, rfl, rfl⟩
  refine .cons (fun hstat => ?_) fun hstat => ?_
  · cases hs : t.stat path with
    | ok e => exact absurd ⟨e, hs⟩ hstat
    | error e =>
      have hother : e ≠ .noEntry := fun he => hthere (he ▸ hs)
      dsimp only
      rw [if_neg hother]
      exact ⟨_, rfl, rfl⟩
  obtain ⟨e, hs⟩ := hstat
  simp only [hs]
  refine .cons (fun hdirectory => ?_) fun hdirectory => ?_
  · have hno : e.isDirectory = false :=
      eq_false_of_ne_true fun hyes => hdirectory ⟨e, rfl, hyes⟩
    rw [hno]
    exact ⟨_, rfl, rfl⟩
  obtain ⟨_, he, hyes⟩ := hdirectory
  cases he
  rw [if_pos hyes]
  exact .nil ()

theorem obeys_makeTarget (t : FileTree) (target : String) :
    Obeys (madeRequirements t target) (Handler.makeTarget? t target) := by
  unfold madeRequirements Handler.makeTarget?
  refine .cons (fun hunmade => ?_) fun hmade => ?_
  · cases hl : t.lstat target with
    | ok e => exact absurd (.inl ⟨e, hl⟩) hunmade
    | error e =>
      dsimp only
      by_cases he : e = .noEntry
      · rw [if_pos he]
        cases hm : t.makeDirectory target Handler.targetMode with
        | ok t' => exact absurd (.inr ⟨he ▸ hl, t', hm⟩) hunmade
        | error e => exact ⟨_, rfl, rfl⟩
      · rw [if_neg he]
        exact ⟨_, rfl, rfl⟩
  · rcases hmade with ⟨e, hl⟩ | ⟨hl, t', hm⟩
    · rw [hl]
      exact .nil t
    · simp only [hl, if_true, hm]
      exact .nil t'

/-- A name of a filesystem is empty or, in small letters, one of those supported. -/
theorem obeys_choose (name : String) :
    Obeys [⟨Text.toLower name.toList = [] ∨
      String.ofList (Text.toLower name.toList) ∈ ["ext4", "ext3", "xfs"], .invalidArgument⟩]
      (FsType.choose name) := by
  have hempty : (String.ofList (Text.toLower name.toList)).isEmpty = true ↔
      Text.toLower name.toList = [] := by
    rw [String.isEmpty_iff, ← String.toList_inj, String.toList_ofList]
    rfl
  unfold FsType.choose
  dsimp only
  refine .cons (fun hother => ?_) fun hfits => ?_
  · obtain ⟨hgiven, hunsupported⟩ := not_or.1 hother
    have hno : FsType.supported.contains (String.ofList (Text.toLower name.toList)) = false :=
      eq_false_of_ne_true fun hyes => hunsupported (List.contains_iff_mem.1 hyes)
    rw [if_neg (fun h => hgiven (hempty.1 h)), hno]
    exact ⟨_, rfl, rfl⟩
  · by_cases hnone : Text.toLower name.toList = []
    · rw [if_pos (hempty.2 hnone)]
      exact .nil _
    · have hyes : FsType.supported.contains (String.ofList (Text.toLower name.toList)) = true :=
        List.contains_iff_mem.2 (hfits.resolve_left hnone)
      rw [if_neg (fun h => hnone (hempty.1 h)), if_pos hyes]
      exact .nil _

/-- Only the unknown mode says nothing about reading and writing. -/
theorem readOnly?_eq_none_iff {mode : AccessMode} : mode.readOnly? = none ↔ mode = .unknown := by
  cases mode <;> simp [AccessMode.readOnly?]

theorem obeys_ofRequest (capability : Option Capability) :
    Obeys (capabilityRequirements capability) (MountPlan.ofRequest capability) := by
  unfold capabilityRequirements
  refine .cons (fun hnone => ?_) fun hgiven => ?_
  · cases capability with
    | none => exact ⟨.capabilityRequired, rfl, rfl⟩
    | some c => exact absurd ⟨c, rfl⟩ hnone
  obtain ⟨c, rfl⟩ := hgiven
  unfold MountPlan.ofRequest MountPlan.ofCapability
  dsimp only
  refine .cons (fun hother => ?_) fun hmount => ?_
  · cases haccess : c.accessType with
    | none => exact ⟨.mountAccessRequired, rfl, rfl⟩
    | some access =>
      cases access with
      | block => exact ⟨.mountAccessRequired, rfl, rfl⟩
      | mount fsType flags => exact absurd ⟨c, fsType, flags, rfl, haccess⟩ hother
  obtain ⟨_, fsType, flags, hc, haccess⟩ := hmount
  cases hc
  simp only [haccess]
  refine .cons (fun hunsupported => ?_) fun hsupported => ?_
  · have hname := fun h => hunsupported ⟨c, fsType, flags, rfl, haccess, h⟩
    obtain ⟨e, he, hcode⟩ := (obeys_choose fsType).refused _ (.here hname)
    exact ⟨e, by rw [he], hcode⟩
  obtain ⟨_, _, _, hc, haccess', hname⟩ := hsupported
  cases hc
  cases haccess.symm.trans haccess'
  obtain ⟨chosen, hchosen⟩ := (obeys_choose fsType).passed (allMet_cons.2 ⟨hname, nofun⟩)
  simp only [hchosen]
  refine .cons (fun hunknown => ?_) fun hknown => ?_
  · have hmode : c.accessMode = .unknown :=
      Classical.not_not.1 fun hmode => hunknown ⟨c, rfl, hmode⟩
    rw [readOnly?_eq_none_iff.2 hmode]
    exact ⟨_, rfl, rfl⟩
  · obtain ⟨_, hc, hmode⟩ := hknown
    cases hc
    cases hreads : c.accessMode.readOnly? with
    | none => exact absurd (readOnly?_eq_none_iff.1 hreads) hmode
    | some readOnly => exact .nil _

end VolumeNode
