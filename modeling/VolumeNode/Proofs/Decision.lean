import VolumeNode.Proofs.Call.Clearing
import VolumeNode.Proofs.Call.Course
import VolumeNode.Proofs.Call.Requirements

/-!
# How calls decide

A call makes its checks, reads the mount table once and decides by the mounts that it finds there.
This holds over every mount system.

* `Handler.Decides` says that a handler fails by its first requirement that is not met, and how it
  ends if all of them are met. It is put together check by check (`Decides.bind`, `Decides.last`).
* `StageDecision`, `UnstageDecision` and `PublishDecision` are the decisions, by the mounts of the
  device in the order of the table. A target is cleared as `Clearing` says.
* **`Call.decided`**: every call of the service decides so, and one with an unmet requirement asks
  the mount system for nothing.
-/

namespace VolumeNode

variable {σ : Type}

/-! ## 1. Checks in a row -/

/-- What reading the mount table requires. -/
def tableRequirements (m : MountSystem σ) (t : FileTree) (s : σ) : List Requirement :=
  [⟨∃ rs s', m.entries t s = (.ok rs, s'), .internal⟩]

theorem obeys_entries {α : Type} {m : MountSystem σ} {t : FileTree} {s s' : σ}
    {x : Except MountFailure (List MountEntry)} (h : m.entries t s = (x, s'))
    (f : List MountEntry → α) :
    Obeys (tableRequirements m t s) ((x.mapError .unreadableTable).map f) := by
  refine .cons (fun hunreadable => ?_) fun hreadable => ?_
  · cases x with
    | ok rs => exact absurd ⟨rs, s', h⟩ hunreadable
    | error e => exact ⟨.unreadableTable e, rfl, rfl⟩
  · obtain ⟨rs, s'', hread⟩ := hreadable
    rw [h] at hread
    cases hread
    exact .nil _

namespace Handler

variable {α β : Type} {kind : Action → Bool} {m : MountSystem σ} {w w₁ : World σ}
  {qs qs' : List Requirement} {Ends : List Action → Except Refusal β → World σ → Prop}

/-- A handler fails by its first requirement that is not met, without an action of the kind. If all
    are met, it comes to one of these ends. -/
structure Decides (kind : Action → Bool) (m : MountSystem σ) (w : World σ) (qs : List Requirement)
    (h : Handler β) (Ends : List Action → Except Refusal β → World σ → Prop) : Prop where
  first : ∀ code, FirstUnmet qs code → ∃ outcome w', Runs kind m w h [] outcome w' ∧
    RefusedAs code outcome
  all : AllMet qs → ∃ taken outcome w', Runs kind m w h taken outcome w' ∧ Ends taken outcome w'

/-- A handler that starts with a check. -/
theorem Decides.bind {h : Handler α} {f : α → Handler β} {x : Except Refusal α}
    (hh : Runs kind m w h [] x w₁) (hx : Obeys qs x)
    (hf : ∀ a, x = .ok a → Decides kind m w₁ qs' (f a) Ends) :
    Decides kind m w (qs ++ qs') (h >>= f) Ends where
  first code hcode := by
    rcases hcode.of_append with hfirst | ⟨hmet, hsecond⟩
    · obtain ⟨e, rfl, he⟩ := hx.refused code hfirst
      exact ⟨_, w₁, hh.fail f, e, rfl, he⟩
    · obtain ⟨a, rfl⟩ := hx.passed hmet
      obtain ⟨outcome, w', hruns, hrefused⟩ := (hf a rfl).first code hsecond
      exact ⟨outcome, w', hh.quiet_bind hruns, hrefused⟩
  all hall := by
    obtain ⟨hmet, hrest⟩ := allMet_append.1 hall
    obtain ⟨a, rfl⟩ := hx.passed hmet
    obtain ⟨taken, outcome, w', hruns, hends⟩ := (hf a rfl).all hrest
    exact ⟨taken, outcome, w', hh.quiet_bind hruns, hends⟩

/-- A handler whose last check this is. -/
theorem Decides.last {h : Handler α} {f : α → Handler β} {x : Except Refusal α}
    (hh : Runs kind m w h [] x w₁) (hx : Obeys qs x)
    (hf : ∀ a, x = .ok a →
      ∃ taken outcome w', Runs kind m w₁ (f a) taken outcome w' ∧ Ends taken outcome w') :
    Decides kind m w qs (h >>= f) Ends := by
  have hbind : Decides kind m w (qs ++ []) (h >>= f) Ends :=
    .bind hh hx fun a ha => ⟨nofun, fun _ => hf a ha⟩
  rwa [List.append_nil] at hbind

/-- A handler that goes on with the mounts of a device. -/
theorem Decides.entriesOf (hkind : Changing kind) {device : Device}
    {f : List MountEntry → Handler β}
    (hf : ∀ rs s, m.entries w.tree w.mounts = (.ok rs, s) → ∃ taken outcome w',
      Runs kind m { w with mounts := s } (f (rs.filter (·.mountsNode device.node))) taken outcome
        w' ∧ Ends taken outcome w') :
    Decides kind m w (tableRequirements m w.tree w.mounts) (Handler.entriesOf device >>= f)
      Ends := by
  cases hlisted : m.entries w.tree w.mounts with
  | mk x s =>
    refine .last (runs_entriesOf m w hkind device hlisted) (obeys_entries hlisted _)
      fun mounts hx => ?_
    cases x with
    | error e => cases hx
    | ok rs =>
      cases hx
      exact hf rs s hlisted

end Handler

/-! ## 2. Decisions -/

/-- The mount system is asked once, and its answer decides. -/
structure AsksOnce (m : MountSystem σ) (w : World σ) (a : Action) (requests : List Action)
    (outcome : Except Refusal Unit) : Prop where
  once : requests = [a]
  success : outcome = .ok () ↔ a.Granted m w
  failure : ¬ a.Granted m w → RefusedAs .internal outcome

theorem asksOnce_of_answer {m : MountSystem σ} {w : World σ} {a : Action}
    {x : Except MountFailure Unit} {cause : MountFailure → Refusal}
    (hgranted : a.Granted m w ↔ x = .ok ()) (hcause : ∀ e, (cause e).code = .internal) :
    AsksOnce m w a [a] (x.mapError cause) where
  once := rfl
  success := by
    rw [hgranted]
    cases x with
    | ok u => exact ⟨fun _ => rfl, fun _ => rfl⟩
    | error e => exact ⟨nofun, nofun⟩
  failure hdenied := by
    cases x with
    | ok u => exact absurd (hgranted.2 rfl) hdenied
    | error e => exact ⟨cause e, rfl, hcause e⟩

/-- A request that is denied is a failure of the machine, and of no other kind. -/
theorem AsksOnce.not_refusedAs {m : MountSystem σ} {w : World σ} {a : Action}
    {requests : List Action} {outcome : Except Refusal Unit} {code : StatusCode}
    (h : AsksOnce m w a requests outcome) (hcode : code ≠ .internal) :
    ¬ RefusedAs code outcome := by
  intro hrefused
  by_cases hgranted : a.Granted m w
  · rw [h.success.2 hgranted] at hrefused
    exact not_refusedAs_ok hrefused
  · exact hcode (hrefused.unique (h.failure hgranted))

/-- What is decided for a volume to be staged, by the mounts of its device. -/
structure StageDecision (m : MountSystem σ) (w : World σ) (d : Device) (plan : MountPlan)
    (staging : String) (mounts : List MountEntry) (requests : List Action)
    (outcome : Except Refusal Unit) : Prop where
  /-- A device without mounts is mounted, and formatted first if it is to be written to. -/
  unmounted : mounts = [] → AsksOnce m w
    (if plan.readOnly then .mount d.link staging plan.fsType (plan.flags ++ ["ro"])
      else .mountFormatted d.link staging plan.fsType plan.flags) requests outcome
  mounted : mounts ≠ [] → requests = []
  staged : ∀ e, mounts.find? (·.path == staging) = some e →
    accessOption plan.readOnly ∈ e.options → outcome = .ok ()
  conflict : ∀ e, mounts.find? (·.path == staging) = some e →
    accessOption plan.readOnly ∉ e.options → RefusedAs .alreadyExists outcome
  elsewhere : mounts ≠ [] → (∀ e ∈ mounts, e.path ≠ staging) → RefusedAs .internal outcome

/-- A device is mounted once, at the staging directory, and is itself the source there. -/
def StagedAlone (d : Device) (staging : String) (mounts : List MountEntry) : Prop :=
  ∃ e, mounts = [e] ∧ e.path = staging ∧ e.source = d.node

/-- What is decided for a volume to be taken off its staging directory. -/
structure UnstageDecision (m : MountSystem σ) (w : World σ) (d : Device) (staging : String)
    (mounts : List MountEntry) (requests : List Action) (outcome : Except Refusal Unit) :
    Prop where
  asks : requests ≠ [] ↔ StagedAlone d staging mounts
  unmounts : StagedAlone d staging mounts → AsksOnce m w (.unmount staging) requests outcome
  absent : requests = [] ∧ outcome = .ok () ↔ mounts = []
  otherwise : mounts ≠ [] → ¬ StagedAlone d staging mounts → RefusedAs .internal outcome

/-- A device has several mounts, and one of them is at the target. -/
def PublishedAt (target : String) (mounts : List MountEntry) : Prop :=
  2 ≤ mounts.length ∧ ∃ e ∈ mounts, e.path = target

/-- What is decided for a volume to be published. -/
structure PublishDecision (m : MountSystem σ) (w : World σ) (r : PublishRequest)
    (plan : MountPlan) (mounts : List MountEntry) (requests : List Action)
    (outcome : Except Refusal Unit) : Prop where
  unstaged : RefusedAs .failedPrecondition outcome ↔ mounts = []
  quiet : requests = [] ↔ mounts = [] ∨ PublishedAt r.target mounts
  settled : requests = [] ∧ (outcome = .ok () ∨ RefusedAs .alreadyExists outcome) ↔
    PublishedAt r.target mounts
  /-- The first of the mounts at the target decides. -/
  fits : 2 ≤ mounts.length → ∀ e, mounts.find? (·.path == r.target) = some e →
    (outcome = .ok () ↔ accessOption r.readOnly ∈ e.options)
  bound : mounts ≠ [] → ¬ PublishedAt r.target mounts → AsksOnce m w
    (.bindTo r.staging r.target (if r.readOnly then plan.flags ++ ["ro"] else plan.flags)) requests
    outcome

section Decisions

open Handler

theorem at_of_find? {mounts : List MountEntry} {path : String} {e : MountEntry}
    (h : mounts.find? (·.path == path) = some e) : e ∈ mounts ∧ e.path = path :=
  ⟨List.mem_of_find?_eq_some h, by simpa using List.find?_some h⟩

theorem StageDecision.of_unmounted {m : MountSystem σ} {w : World σ} {d : Device} {plan : MountPlan}
    {staging : String} {requests : List Action} {outcome : Except Refusal Unit}
    (hasks : AsksOnce m w
      (if plan.readOnly then .mount d.link staging plan.fsType (plan.flags ++ ["ro"])
        else .mountFormatted d.link staging plan.fsType plan.flags) requests outcome) :
    StageDecision m w d plan staging [] requests outcome :=
  ⟨fun _ => hasks, fun hne => absurd rfl hne, nofun, nofun, fun hne => absurd rfl hne⟩

theorem StageDecision.of_elsewhere {m : MountSystem σ} {w : World σ} {d : Device} {plan : MountPlan}
    {staging : String} {mounts : List MountEntry} {outcome : Except Refusal Unit}
    (hne : mounts ≠ []) (hfind : mounts.find? (·.path == staging) = none)
    (hrefused : RefusedAs .internal outcome) :
    StageDecision m w d plan staging mounts [] outcome := by
  have hnone : ∀ e, mounts.find? (·.path == staging) ≠ some e := by
    intro e he
    rw [hfind] at he
    cases he
  refine ⟨fun hnil => absurd hnil hne, fun _ => rfl, ?_, ?_, fun _ _ => hrefused⟩
  · exact fun e he => absurd he (hnone e)
  · exact fun e he => absurd he (hnone e)

/-- A device that is mounted at the staging directory: the first of its mounts there decides. -/
theorem StageDecision.of_present {m : MountSystem σ} {w : World σ} {d : Device} {plan : MountPlan}
    {staging : String} {mounts : List MountEntry} {entry : MountEntry}
    {outcome : Except Refusal Unit} (hfind : mounts.find? (·.path == staging) = some entry)
    (hfits : accessOption plan.readOnly ∈ entry.options → outcome = .ok ())
    (hdiffers : accessOption plan.readOnly ∉ entry.options → RefusedAs .alreadyExists outcome) :
    StageDecision m w d plan staging mounts [] outcome := by
  obtain ⟨hmem, hpath⟩ := at_of_find? hfind
  refine ⟨fun hnil => ?_, fun _ => rfl, ?_, ?_, fun _ hnone => absurd hpath (hnone entry hmem)⟩
  · rw [hnil] at hmem
    cases hmem
  · intro e he
    rw [hfind] at he
    cases he
    exact hfits
  · intro e he
    rw [hfind] at he
    cases he
    exact hdiffers

theorem stage_decides (m : MountSystem σ) (w : World σ) (d : Device) (r : StageRequest)
    (plan : MountPlan) (mounts : List MountEntry) :
    ∃ requests outcome w', Runs (·.changesMounts) m w
        (match mounts with
          | [] => mountDevice d r.volume r.staging plan
          | mounts =>
            match mounts.find? (·.path == r.staging) with
            | none => throw (.mountedElsewhere d.node r.volume)
            | some entry => require (entry.carries plan.accessOption)
              (.mountedOtherwise r.volume r.staging entry.options)) requests outcome w' ∧
      StageDecision m w d plan r.staging mounts requests outcome := by
  cases mounts with
  | nil =>
    dsimp only
    unfold mountDevice
    by_cases hro : plan.readOnly = true
    · rw [if_pos hro]
      have hruns : Runs (·.changesMounts) m w _ _ _ _ :=
        .request (a := .mount d.link r.staging plan.fsType (plan.flags ++ ["ro"])) rfl
          fun answer => answer.mapError (.mountFailed r.volume r.staging)
      refine ⟨_, _, _, hruns, .of_unmounted ?_⟩
      rw [if_pos hro]
      exact asksOnce_of_answer Iff.rfl fun _ => rfl
    · rw [if_neg hro]
      have hruns : Runs (·.changesMounts) m w _ _ _ _ :=
        .request (a := .mountFormatted d.link r.staging plan.fsType plan.flags) rfl
          fun answer => answer.mapError (.formatFailed r.volume r.staging)
      refine ⟨_, _, _, hruns, .of_unmounted ?_⟩
      rw [if_neg hro]
      exact asksOnce_of_answer Iff.rfl fun _ => rfl
  | cons e es =>
    dsimp only
    cases hfind : (e :: es).find? (·.path == r.staging) with
    | none =>
      have hrefused : RefusedAs .internal
          (.error (.mountedElsewhere d.node r.volume) : Except Refusal Unit) := ⟨_, rfl, rfl⟩
      exact ⟨[], _, w, .throw _, .of_elsewhere (List.cons_ne_nil _ _) hfind hrefused⟩
    | some entry =>
      have hcarries : entry.carries plan.accessOption = true ↔
          accessOption plan.readOnly ∈ entry.options := entry.carries_iff _
      refine ⟨[], _, w, .require _ _, .of_present hfind (fun hfits => ?_) fun hdiffers => ?_⟩
      · rw [if_pos (hcarries.2 hfits)]
      · rw [if_neg (fun h => hdiffers (hcarries.1 h))]
        exact ⟨_, rfl, rfl⟩

/-- A device with mounts that are not the staging mount alone is left as it is. -/
theorem UnstageDecision.of_elsewhere {m : MountSystem σ} {w : World σ} {d : Device}
    {staging : String} {mounts : List MountEntry} {outcome : Except Refusal Unit}
    (hne : mounts ≠ []) (hnot : ¬ StagedAlone d staging mounts)
    (hrefused : RefusedAs .internal outcome) :
    UnstageDecision m w d staging mounts [] outcome := by
  refine ⟨?_, fun h => absurd h hnot, ?_, fun _ _ => hrefused⟩
  · exact ⟨fun h => absurd rfl h, fun h => absurd h hnot⟩
  · refine ⟨fun h => ?_, fun h => absurd h hne⟩
    rw [h.2] at hrefused
    exact absurd hrefused not_refusedAs_ok

theorem UnstageDecision.of_staged {m : MountSystem σ} {w : World σ} {d : Device}
    {staging : String} {mounts : List MountEntry} {requests : List Action}
    {outcome : Except Refusal Unit} (hstaged : StagedAlone d staging mounts)
    (hasks : AsksOnce m w (.unmount staging) requests outcome) :
    UnstageDecision m w d staging mounts requests outcome := by
  have hsome : requests ≠ [] := by simp [hasks.once]
  refine ⟨⟨fun _ => hstaged, fun _ => hsome⟩, fun _ => hasks, ?_, fun _ h => absurd hstaged h⟩
  refine ⟨fun h => absurd h.1 hsome, fun hnil => ?_⟩
  obtain ⟨e, he, _⟩ := hstaged
  rw [hnil] at he
  cases he

theorem UnstageDecision.of_unmounted {m : MountSystem σ} {w : World σ} {d : Device}
    {staging : String} : UnstageDecision m w d staging [] [] (.ok ()) := by
  have hnot : ¬ StagedAlone d staging [] := by
    intro ⟨e, he, _⟩
    cases he
  refine ⟨?_, fun h => absurd h hnot, ?_, fun h => absurd rfl h⟩
  · exact ⟨fun h => absurd rfl h, fun h => absurd h hnot⟩
  · exact ⟨fun _ => rfl, fun _ => ⟨rfl, rfl⟩⟩

theorem unstage_decides (m : MountSystem σ) (w : World σ) (d : Device) (r : UnstageRequest)
    (mounts : List MountEntry) :
    ∃ requests outcome w', Runs (·.changesMounts) m w
        (match mounts with
          | [] => pure ()
          | [entry] => do
            require (entry.source == d.node && entry.path == r.staging)
              (.notMountedAt r.volume r.staging entry.path)
            demand (← ask (.unmount r.staging)) (.unmountFailed r.staging)
          | mounts => throw (.mountedTwice r.volume (mounts.map (·.path)))) requests outcome w' ∧
      UnstageDecision m w d r.staging mounts requests outcome := by
  match mounts with
  | [] => exact ⟨[], _, w, .pure (), .of_unmounted⟩
  | [entry] =>
    dsimp only
    have hcheck : Runs (·.changesMounts) m w _ _ _ _ :=
      .require (entry.source == d.node && entry.path == r.staging)
        (.notMountedAt r.volume r.staging entry.path)
    by_cases hat : entry.source = d.node ∧ entry.path = r.staging
    · have hpasses : (entry.source == d.node && entry.path == r.staging) = true := by
        simpa using hat
      have hunmount : Runs (·.changesMounts) m w _ _ _ _ :=
        .request (a := .unmount r.staging) rfl
          fun answer => answer.mapError (.unmountFailed r.staging)
      rw [hpasses] at hcheck
      rw [hpasses]
      refine ⟨_, _, _, hcheck.quiet_bind hunmount, .of_staged ⟨entry, rfl, hat.2, hat.1⟩ ?_⟩
      exact asksOnce_of_answer Iff.rfl fun _ => rfl
    · have hfails : (entry.source == d.node && entry.path == r.staging) = false := by
        simpa using hat
      have hnot : ¬ StagedAlone d r.staging [entry] := by
        intro ⟨e, he, hpath, hsource⟩
        cases he
        exact hat ⟨hsource, hpath⟩
      rw [hfails] at hcheck
      rw [hfails]
      exact ⟨_, _, _, hcheck.fail _, .of_elsewhere (List.cons_ne_nil _ _) hnot ⟨_, rfl, rfl⟩⟩
  | e₁ :: e₂ :: es =>
    have hnot : ¬ StagedAlone d r.staging (e₁ :: e₂ :: es) := by
      intro ⟨e, he, _⟩
      cases he
    exact ⟨[], _, w, .throw _, .of_elsewhere (List.cons_ne_nil _ _) hnot ⟨_, rfl, rfl⟩⟩

/-- The entry that shows a publication is the first one at the target, among several. -/
theorem published?_eq_some_iff {mounts : List MountEntry} {target : String} {e : MountEntry} :
    published? mounts target = some e ↔
      2 ≤ mounts.length ∧ mounts.find? (·.path == target) = some e := by
  unfold published?
  by_cases hlong : mounts.length > 1
  · rw [if_pos hlong]
    exact ⟨fun h => ⟨hlong, h⟩, And.right⟩
  · rw [if_neg hlong]
    exact ⟨nofun, fun h => absurd h.1 hlong⟩

theorem publishedAt_iff {mounts : List MountEntry} {target : String} :
    PublishedAt target mounts ↔ published? mounts target ≠ none := by
  constructor
  · rintro ⟨hlong, e, he, hpath⟩ hnone
    cases hfind : mounts.find? (·.path == target) with
    | none =>
      have hother := List.find?_eq_none.1 hfind e he
      exact hother (beq_iff_eq.2 hpath)
    | some entry =>
      have hsome := published?_eq_some_iff.2 ⟨hlong, hfind⟩
      rw [hnone] at hsome
      cases hsome
  · intro hsome
    obtain ⟨e, he⟩ := Option.ne_none_iff_exists'.1 hsome
    obtain ⟨hlong, hfind⟩ := published?_eq_some_iff.1 he
    exact ⟨hlong, e, at_of_find? hfind⟩

/-- With several mounts of the device, the first one at the target decides, and nothing is asked. -/
theorem PublishDecision.of_shown {m : MountSystem σ} {w : World σ} {r : PublishRequest}
    {plan : MountPlan} {mounts : List MountEntry} {entry : MountEntry}
    {outcome : Except Refusal Unit}
    (hshown : published? mounts r.target = some entry)
    (hends : outcome = .ok () ∨ RefusedAs .alreadyExists outcome)
    (hfits : outcome = .ok () ↔ accessOption r.readOnly ∈ entry.options) :
    PublishDecision m w r plan mounts [] outcome := by
  obtain ⟨hlong, hfind⟩ := published?_eq_some_iff.1 hshown
  have hat : PublishedAt r.target mounts := publishedAt_iff.2 (by simp [hshown])
  have hne : mounts ≠ [] := by
    intro hnil
    rw [hnil] at hfind
    cases hfind
  refine ⟨?_, ?_, ?_, ?_, fun _ hnot => absurd hat hnot⟩
  · refine ⟨fun hrefused => ?_, fun h => absurd h hne⟩
    rcases hends with rfl | hexists
    · exact absurd hrefused not_refusedAs_ok
    · cases hrefused.unique hexists
  · exact ⟨fun _ => .inr hat, fun _ => rfl⟩
  · exact ⟨fun _ => hat, fun _ => ⟨rfl, hends⟩⟩
  · intro _ e he
    rw [hfind] at he
    cases he
    exact hfits

theorem PublishDecision.of_unstaged {m : MountSystem σ} {w : World σ} {r : PublishRequest}
    {plan : MountPlan} {outcome : Except Refusal Unit}
    (hrefused : RefusedAs .failedPrecondition outcome) :
    PublishDecision m w r plan [] [] outcome := by
  have hnot : ¬ PublishedAt r.target [] := fun h => absurd h.1 (by decide)
  refine ⟨?_, ?_, ?_, fun hlong => absurd hlong (by decide), fun h => absurd rfl h⟩
  · exact ⟨fun _ => rfl, fun _ => hrefused⟩
  · exact ⟨fun _ => .inl rfl, fun _ => rfl⟩
  · refine ⟨fun hsettled => ?_, fun h => absurd h hnot⟩
    rcases hsettled.2 with hok | hexists
    · rw [hok] at hrefused
      exact absurd hrefused not_refusedAs_ok
    · cases hrefused.unique hexists

theorem PublishDecision.of_asked {m : MountSystem σ} {w : World σ} {r : PublishRequest}
    {plan : MountPlan} {mounts : List MountEntry} {requests : List Action}
    {outcome : Except Refusal Unit} (hne : mounts ≠ [])
    (hshown : published? mounts r.target = none)
    (hasks : AsksOnce m w (.bindTo r.staging r.target (publishFlags plan.flags r.readOnly)) requests
      outcome) : PublishDecision m w r plan mounts requests outcome := by
  have hnot : ¬ PublishedAt r.target mounts := fun hat => publishedAt_iff.1 hat hshown
  have hsome : requests ≠ [] := by simp [hasks.once]
  refine ⟨?_, ?_, ?_, ?_, fun _ _ => hasks⟩
  · exact ⟨fun h => absurd h (hasks.not_refusedAs (by decide)), fun h => absurd h hne⟩
  · exact ⟨fun h => absurd h hsome, fun h => (h.elim hne hnot).elim⟩
  · exact ⟨fun h => absurd h.1 hsome, fun h => absurd h hnot⟩
  · intro hlong e he
    rw [published?_eq_some_iff.2 ⟨hlong, he⟩] at hshown
    cases hshown

theorem publish_decides (m : MountSystem σ) (w : World σ) (r : PublishRequest) (plan : MountPlan)
    (mounts : List MountEntry) :
    ∃ requests outcome w', Runs (·.changesMounts) m w
        (match published? mounts r.target with
          | some entry =>
            require (entry.carries (accessOption r.readOnly))
              (.publishedOtherwise r.volume r.target)
          | none => do
            require (! mounts.isEmpty) (.notStaged r.volume r.staging)
            demand (← ask (.bindTo r.staging r.target (publishFlags plan.flags r.readOnly)))
              (.bindFailed r.volume r.target)) requests outcome w' ∧
      PublishDecision m w r plan mounts requests outcome := by
  cases hshown : published? mounts r.target with
  | some entry =>
    have hcheck : Runs (·.changesMounts) m w _ _ _ _ :=
      .require (entry.carries (accessOption r.readOnly)) (.publishedOtherwise r.volume r.target)
    refine ⟨_, _, _, hcheck, .of_shown hshown ?_ ?_⟩
    · by_cases hfits : entry.carries (accessOption r.readOnly) = true
      · rw [if_pos hfits]
        exact .inl rfl
      · rw [if_neg hfits]
        exact .inr ⟨_, rfl, rfl⟩
    · rw [← entry.carries_iff]
      by_cases hfits : entry.carries (accessOption r.readOnly) = true
      · rw [if_pos hfits]
        exact ⟨fun _ => hfits, fun _ => rfl⟩
      · rw [if_neg hfits]
        exact ⟨nofun, fun h => absurd h hfits⟩
  | none =>
    have hcheck : Runs (·.changesMounts) m w _ _ _ _ :=
      .require (! mounts.isEmpty) (.notStaged r.volume r.staging)
    dsimp only
    cases mounts with
    | nil => exact ⟨_, _, _, hcheck.fail _, .of_unstaged ⟨_, rfl, rfl⟩⟩
    | cons e es =>
      have hbind : Runs (·.changesMounts) m w _ _ _ _ :=
        .request (a := .bindTo r.staging r.target (publishFlags plan.flags r.readOnly)) rfl
          fun answer => answer.mapError (.bindFailed r.volume r.target)
      refine ⟨_, _, _, hcheck.quiet_bind hbind, .of_asked (List.cons_ne_nil e es) hshown ?_⟩
      exact asksOnce_of_answer Iff.rfl fun _ => rfl

end Decisions

/-! ## 3. Calls -/

/-- What staging a volume requires, in the order of the checks. -/
def StageRequest.requirements (m : MountSystem σ) (naming : DeviceNaming) (w : World σ)
    (r : StageRequest) : List Requirement :=
  naming.requirements w.tree r.volume ++
    ((pathRequirements r.staging ++ directoryRequirements w.tree r.staging) ++
      (capabilityRequirements r.capability ++ tableRequirements m w.tree w.mounts))

/-- What taking a volume off its staging directory requires. -/
def UnstageRequest.requirements (m : MountSystem σ) (naming : DeviceNaming) (w : World σ)
    (r : UnstageRequest) : List Requirement :=
  naming.requirements w.tree r.volume ++
    ((pathRequirements r.staging ++ directoryRequirements w.tree r.staging) ++
      tableRequirements m w.tree w.mounts)

/-- The tree after a target was made, if that was to be done and could be. -/
def treeWithTarget (t : FileTree) (target : String) : FileTree :=
  (Handler.makeTarget? t target).toOption.getD t

/-- What publishing a volume requires. The target is made before the staging directory is looked
    at. -/
def PublishRequest.requirements (m : MountSystem σ) (naming : DeviceNaming) (w : World σ)
    (r : PublishRequest) : List Requirement :=
  let tree := treeWithTarget w.tree r.target
  naming.requirements w.tree r.volume ++
    (pathRequirements r.target ++
      (madeRequirements w.tree r.target ++
        ((pathRequirements r.staging ++ directoryRequirements tree r.staging) ++
          (capabilityRequirements r.capability ++ tableRequirements m tree w.mounts))))

/-- What taking a volume off a target requires. -/
def UnpublishRequest.requirements (m : MountSystem σ) (naming : DeviceNaming) (w : World σ)
    (r : UnpublishRequest) : List Requirement :=
  naming.requirements w.tree r.volume ++
    (pathRequirements r.target ++ tableRequirements m w.tree w.mounts)

/-- A volume is staged as the mounts of its device decide. -/
def StageRequest.Decided (m : MountSystem σ) (naming : DeviceNaming) (w : World σ)
    (r : StageRequest) (requests : List Action) (outcome : Except Refusal Unit) : Prop :=
  ∃ d plan rs s, naming.device w.tree r.volume = .ok d ∧
    MountPlan.ofRequest r.capability = .ok plan ∧ m.entries w.tree w.mounts = (.ok rs, s) ∧
    StageDecision m ⟨w.tree, s⟩ d plan r.staging (rs.filter (·.mountsNode d.node)) requests outcome

/-- A volume is taken off its staging directory as the mounts of its device decide. -/
def UnstageRequest.Decided (m : MountSystem σ) (naming : DeviceNaming) (w : World σ)
    (r : UnstageRequest) (requests : List Action) (outcome : Except Refusal Unit) : Prop :=
  ∃ d rs s, naming.device w.tree r.volume = .ok d ∧ m.entries w.tree w.mounts = (.ok rs, s) ∧
    UnstageDecision m ⟨w.tree, s⟩ d r.staging (rs.filter (·.mountsNode d.node)) requests outcome

/-- A volume is published as the mounts of its device decide. -/
def PublishRequest.Decided (m : MountSystem σ) (naming : DeviceNaming) (w : World σ)
    (r : PublishRequest) (requests : List Action) (outcome : Except Refusal Unit) : Prop :=
  ∃ d plan rs s, naming.device w.tree r.volume = .ok d ∧
    MountPlan.ofRequest r.capability = .ok plan ∧
    m.entries (treeWithTarget w.tree r.target) w.mounts = (.ok rs, s) ∧
    PublishDecision m ⟨treeWithTarget w.tree r.target, s⟩ r plan (rs.filter (·.mountsNode d.node))
      requests outcome

/-- A target is cleared of the mounts that show the device there. -/
def UnpublishRequest.Decided (m : MountSystem σ) (naming : DeviceNaming) (w : World σ)
    (r : UnpublishRequest) (effects : List Action) (outcome : Except Refusal Unit) (w' : World σ) :
    Prop :=
  ∃ d rs s, naming.device w.tree r.volume = .ok d ∧ m.entries w.tree w.mounts = (.ok rs, s) ∧
    Clearing m w.tree r.target
      (rs.countP fun e => e.path == r.target && (e.source == d.node || e.device == d.node)) s
      effects outcome w'

namespace Handler

theorem decides_stage (m : MountSystem σ) (naming : DeviceNaming) (w : World σ)
    (r : StageRequest) :
    Decides (·.changesMounts) m w (r.requirements m naming w) (stage naming r)
      fun requests outcome _ => r.Decided m naming w requests outcome := by
  refine .bind (runs_findDevice m w changing_changesMounts naming r.volume)
    (obeys_device naming w.tree r.volume) fun d hd => ?_
  refine .bind (runs_requireDirectory m w changing_changesMounts r.staging)
    (obeys_directoryCheck w.tree r.staging) fun _ _ => ?_
  refine .bind (.ofExcept (MountPlan.ofRequest r.capability)) (obeys_ofRequest r.capability)
    fun plan hplan => ?_
  refine .entriesOf changing_changesMounts fun rs s hlisted => ?_
  obtain ⟨requests, outcome, w', hruns, hdecision⟩ :=
    stage_decides m ⟨w.tree, s⟩ d r plan (rs.filter (·.mountsNode d.node))
  exact ⟨requests, outcome, w', hruns, d, plan, rs, s, hd, hplan, hlisted, hdecision⟩

theorem decides_unstage (m : MountSystem σ) (naming : DeviceNaming) (w : World σ)
    (r : UnstageRequest) :
    Decides (·.changesMounts) m w (r.requirements m naming w) (unstage naming r)
      fun requests outcome _ => r.Decided m naming w requests outcome := by
  refine .bind (runs_findDevice m w changing_changesMounts naming r.volume)
    (obeys_device naming w.tree r.volume) fun d hd => ?_
  refine .bind (runs_requireDirectory m w changing_changesMounts r.staging)
    (obeys_directoryCheck w.tree r.staging) fun _ _ => ?_
  refine .entriesOf changing_changesMounts fun rs s hlisted => ?_
  obtain ⟨requests, outcome, w', hruns, hdecision⟩ :=
    unstage_decides m ⟨w.tree, s⟩ d r (rs.filter (·.mountsNode d.node))
  exact ⟨requests, outcome, w', hruns, d, rs, s, hd, hlisted, hdecision⟩

theorem decides_publish (m : MountSystem σ) (naming : DeviceNaming) (w : World σ)
    (r : PublishRequest) :
    Decides (·.changesMounts) m w (r.requirements m naming w) (publish naming r)
      fun requests outcome _ => r.Decided m naming w requests outcome := by
  refine .bind (runs_findDevice m w changing_changesMounts naming r.volume)
    (obeys_device naming w.tree r.volume) fun d hd => ?_
  refine .bind (runs_requireTarget m w r.target) (obeys_targetCheck r.target) fun _ _ => ?_
  refine .bind (runs_makeTarget m w r.target) ((obeys_makeTarget w.tree r.target).map _)
    fun _ _ => ?_
  refine .bind (runs_requireDirectory m _ changing_changesMounts r.staging)
    (obeys_directoryCheck (treeWithTarget w.tree r.target) r.staging) fun _ _ => ?_
  refine .bind (.ofExcept (MountPlan.ofRequest r.capability)) (obeys_ofRequest r.capability)
    fun plan hplan => ?_
  refine .entriesOf changing_changesMounts fun rs s hlisted => ?_
  obtain ⟨requests, outcome, w', hruns, hdecision⟩ :=
    publish_decides m ⟨treeWithTarget w.tree r.target, s⟩ r plan
      (rs.filter (·.mountsNode d.node))
  exact ⟨requests, outcome, w', hruns, d, plan, rs, s, hd, hplan, hlisted, hdecision⟩

/-- The mounts of a device at a path, counted in the whole table. -/
theorem countP_shows (rs : List MountEntry) (target : String) (d : Device) :
    (rs.filter (·.path == target)).countP (Handler.shows · d) =
      rs.countP fun e => e.path == target && (e.source == d.node || e.device == d.node) := by
  rw [List.countP_filter]
  exact List.countP_congr fun e _ => by rw [Bool.and_comm]; rfl

theorem decides_unpublish (m : MountSystem σ) (naming : DeviceNaming) (w : World σ)
    (r : UnpublishRequest) :
    Decides (·.changes) m w (r.requirements m naming w) (unpublish naming r)
      (r.Decided m naming w) := by
  refine .bind (runs_findDevice m w changing_changes naming r.volume)
    (obeys_device naming w.tree r.volume) fun d hd => ?_
  refine .bind (runs_requireTarget m w r.target) (obeys_targetCheck r.target) fun _ _ => ?_
  cases hlisted : m.entries w.tree w.mounts with
  | mk x s =>
    refine .last (runs_entriesAt m w changing_changes r.target hlisted) (obeys_entries hlisted _)
      fun mounts hx => ?_
    cases x with
    | error e => cases hx
    | ok rs =>
      cases hx
      obtain ⟨effects, outcome, w', hclearing, hruns⟩ := exists_clearing m w.tree r.target
        ((rs.filter (·.path == r.target)).countP (Handler.shows · d)) s
      rw [countP_shows] at hclearing
      exact ⟨effects, outcome, w', hruns, d, rs, s, hd, hlisted, hclearing⟩

end Handler

/-- A call is answered by the code of its first requirement that is not met, and nothing is done.
    If all are met, it is decided so. -/
structure DecidedBy (qs : List Requirement) (taken : List Action) (outcome : Except Refusal Unit)
    (decision : Prop) : Prop where
  first : ∀ code, FirstUnmet qs code → taken = [] ∧ RefusedAs code outcome
  all : AllMet qs → decision

/-- What is decided for a handler is decided for its actions, its outcome and the world it
    leaves. -/
theorem Handler.Decides.decidedBy {kind : Action → Bool} {m : MountSystem σ} {w : World σ}
    {qs : List Requirement} {h : Handler Unit}
    {Ends : List Action → Except Refusal Unit → World σ → Prop} (hd : Decides kind m w qs h Ends) :
    DecidedBy qs ((h.run.actions m w).filter kind) (h.run.run m w).1
      (Ends ((h.run.actions m w).filter kind) (h.run.run m w).1 (h.run.run m w).2) where
  first code hcode := by
    obtain ⟨outcome, w', hruns, hrefused⟩ := hd.first code hcode
    rw [hruns.taken, hruns.run]
    exact ⟨rfl, hrefused⟩
  all hall := by
    obtain ⟨taken, outcome, w', hruns, hends⟩ := hd.all hall
    rw [hruns.taken, hruns.run]
    exact hends

/-- **The calls decide by their requirements and the mount table.** The first requirement that is
    not met fixes the answer, and the mount system is asked for no change then. Otherwise the mounts
    of the device decide, in the order of the table. -/
theorem Call.decided (m : MountSystem σ) (naming : DeviceNaming) (w : World σ) :
    (∀ r : StageRequest,
      DecidedBy (r.requirements m naming w) ((stage r).requests m naming w)
        ((stage r).run m naming w).1
        (r.Decided m naming w ((stage r).requests m naming w) ((stage r).run m naming w).1)) ∧
    (∀ r : UnstageRequest,
      DecidedBy (r.requirements m naming w) ((unstage r).requests m naming w)
        ((unstage r).run m naming w).1
        (r.Decided m naming w ((unstage r).requests m naming w) ((unstage r).run m naming w).1)) ∧
    (∀ r : PublishRequest,
      DecidedBy (r.requirements m naming w) ((publish r).requests m naming w)
        ((publish r).run m naming w).1
        (r.Decided m naming w ((publish r).requests m naming w) ((publish r).run m naming w).1)) ∧
    ∀ r : UnpublishRequest,
      DecidedBy (r.requirements m naming w) ((unpublish r).effects m naming w)
        ((unpublish r).run m naming w).1
        (r.Decided m naming w ((unpublish r).effects m naming w) ((unpublish r).run m naming w).1
          ((unpublish r).run m naming w).2) := by
  refine ⟨fun r => ?_, fun r => ?_, fun r => ?_, fun r => ?_⟩
  · exact (Handler.decides_stage m naming w r).decidedBy
  · exact (Handler.decides_unstage m naming w r).decidedBy
  · exact (Handler.decides_publish m naming w r).decidedBy
  · exact (Handler.decides_unpublish m naming w r).decidedBy

/-- On the small machine the first volume is formatted and mounted, and no volume without a name. -/
theorem Call.decided_smallWorld :
    (stage ⟨"a", "/s", writer []⟩).requests MemoryTable.system smallNaming smallWorld =
        [.mountFormatted "/l/xa" "/s" "ext4" []] ∧
      RefusedAs .invalidArgument
        ((stage ⟨"", "/s", writer []⟩).run MemoryTable.system smallNaming smallWorld).1 := by
  have hdecided := (decided MemoryTable.system smallNaming smallWorld).1
  have hok : ((stage ⟨"a", "/s", writer []⟩).run MemoryTable.system smallNaming smallWorld).1 =
      .ok () := by
    decide +kernel
  have hmet := (allMet_or_firstUnmet _).resolve_right fun ⟨code, hcode⟩ =>
    not_refusedAs_ok (hok ▸ ((hdecided ⟨"a", "/s", writer []⟩).first code hcode).2)
  obtain ⟨d, plan, rs, s, hd, hplan, hlisted, hdecision⟩ :=
    (hdecided ⟨"a", "/s", writer []⟩).all hmet
  cases device_smallTree_a.symm.trans hd
  cases hplan
  cases hlisted
  refine ⟨(hdecision.unmounted rfl).once, ?_⟩
  exact ((hdecided ⟨"", "/s", writer []⟩).first _ (.here fun hvolume => hvolume rfl)).2

end VolumeNode
