import VolumeNode.Address.Endpoint
import VolumeNode.Proofs.Address.ShortForm

/-!
# Reading endpoints

Which texts are endpoints, and which error every other text gets.

* A text has the scheme of sockets, the scheme of addresses, or none of the two (`Scheme`), and how
  it is read is one case for each (`parse_unix`, `parse_tcp`, `parse_bare`).
* **`parse_text_of_ok`**: what a text is read as is read back from its text. For an address that is
  because every address is (`SocketAddress.parse_text`).
* **`readsExactly`**: every answer with the texts that get it, for every text.
-/

namespace VolumeNode

namespace Endpoint

variable {s p : String} {e : Endpoint}

/-! ## 1. Schemes -/

/-- A path from the root. -/
def IsAbsolute (path : String) : Prop := path.toList.head? = some '/'

instance (path : String) : Decidable (IsAbsolute path) := inferInstanceAs (Decidable (_ = _))

/-- The scheme of a text, with what stands behind it. -/
inductive Scheme : String → Prop
  | unix (path : String) : Scheme ("unix://" ++ path)
  | tcp (address : String) : Scheme ("tcp://" ++ address)
  | bare {s : String} (unix : ∀ path, s ≠ "unix://" ++ path)
      (tcp : ∀ address, s ≠ "tcp://" ++ address) : Scheme s

theorem scheme (s : String) : Scheme s := by
  by_cases hunix : ∃ path, s = "unix://" ++ path
  · obtain ⟨path, rfl⟩ := hunix
    exact .unix path
  · by_cases htcp : ∃ address, s = "tcp://" ++ address
    · obtain ⟨address, rfl⟩ := htcp
      exact .tcp address
    · exact .bare (not_exists.mp hunix) (not_exists.mp htcp)

theorem after?_append {start : List Char} {head : String} (h : head.toList = start)
    (rest : String) : after? start (head ++ rest).toList = some rest.toList := by
  rw [after?_eq_some_iff, String.toList_append, h]

theorem after?_eq_none {start : List Char} {head : String} (h : head.toList = start)
    (hs : ∀ rest, s ≠ head ++ rest) : after? start s.toList = none := by
  rw [Option.eq_none_iff_forall_not_mem]
  intro rest hrest
  refine hs (String.ofList rest) (String.toList_inj.mp ?_)
  rw [after?_eq_some_iff.mp hrest, String.toList_append, String.toList_ofList, h]

/-- No text has both schemes. -/
@[simp] theorem unix_ne_tcp (path address : String) : "unix://" ++ path ≠ "tcp://" ++ address := by
  intro h
  have hlist := congrArg String.toList h
  simp at hlist

@[simp] theorem not_isAbsolute_unix (path : String) : ¬ IsAbsolute ("unix://" ++ path) := by
  simp [IsAbsolute]

@[simp] theorem not_isAbsolute_tcp (address : String) : ¬ IsAbsolute ("tcp://" ++ address) := by
  simp [IsAbsolute]

/-! ## 2. Reading by scheme -/

theorem parse_unix (path : String) :
    parse ("unix://" ++ path) =
      if IsAbsolute path then .ok (.unix path)
      else .error (.invalidSocketPath ("unix://" ++ path)) := by
  simp only [parse, after?_append (show "unix://".toList = unixScheme from rfl),
    String.ofList_toList]
  rfl

theorem parse_tcp (address : String) :
    parse ("tcp://" ++ address) =
      match SocketAddress.parse address with
      | some a => .ok (.tcp a)
      | none => .error (.invalidAddress address) := by
  have hunix : after? unixScheme ("tcp://" ++ address).toList = none :=
    after?_eq_none (show "unix://".toList = unixScheme from rfl)
      fun path => (unix_ne_tcp path address).symm
  have htcp := after?_append (show "tcp://".toList = tcpScheme from rfl) address
  cases h : SocketAddress.parse address <;> simp only [parse, hunix, htcp, String.ofList_toList, h]

theorem parse_bare (hunix : ∀ path, s ≠ "unix://" ++ path)
    (htcp : ∀ address, s ≠ "tcp://" ++ address) :
    parse s = if IsAbsolute s then .ok (.unix s) else .error (.unsupportedScheme s) := by
  simp only [parse, after?_eq_none (show "unix://".toList = unixScheme from rfl) hunix,
    after?_eq_none (show "tcp://".toList = tcpScheme from rfl) htcp]
  rfl

/-! ## 3. Every answer -/

/-- Which texts get which answer, and that an endpoint is read back from its text. -/
structure ReadsExactly (s : String) : Prop where
  unix (path : String) : parse s = .ok (.unix path) ↔
    (s = "unix://" ++ path ∧ IsAbsolute path) ∨ (s = path ∧ IsAbsolute s)
  tcp (a : SocketAddress) : parse s = .ok (.tcp a) ↔
    ∃ address : String, s = "tcp://" ++ address ∧ a.HasText address.toList
  invalidSocketPath (text : String) : parse s = .error (.invalidSocketPath text) ↔
    text = s ∧ ∃ path, s = "unix://" ++ path ∧ ¬ IsAbsolute path
  invalidAddress (address : String) : parse s = .error (.invalidAddress address) ↔
    s = "tcp://" ++ address ∧ ∀ a : SocketAddress, ¬ a.HasText address.toList
  unsupportedScheme (text : String) : parse s = .error (.unsupportedScheme text) ↔
    text = s ∧ (∀ path, s ≠ "unix://" ++ path) ∧ (∀ address, s ≠ "tcp://" ++ address) ∧
      ¬ IsAbsolute s
  readBack (e : Endpoint) : parse s = .ok e → parse e.text = .ok e

theorem parse_eq_ok_unix_iff : parse s = .ok (.unix p) ↔
    (s = "unix://" ++ p ∧ IsAbsolute p) ∨ (s = p ∧ IsAbsolute s) := by
  cases scheme s with
  | unix path => rw [parse_unix]; split <;> simp <;> grind
  | tcp address => rw [parse_tcp]; split <;> simp [(unix_ne_tcp _ _).symm]
  | bare hunix htcp => rw [parse_bare hunix htcp]; split <;> simp [*]

theorem parse_eq_ok_tcp_iff {a : SocketAddress} : parse s = .ok (.tcp a) ↔
    ∃ address : String, s = "tcp://" ++ address ∧ a.HasText address.toList := by
  simp only [← SocketAddress.parse_eq_some_iff]
  cases scheme s with
  | unix path => rw [parse_unix]; split <;> simp
  | tcp address => rw [parse_tcp]; split <;> simp [*]
  | bare hunix htcp => rw [parse_bare hunix htcp]; split <;> simp [*]

theorem parse_eq_invalidSocketPath_iff {text : String} :
    parse s = .error (.invalidSocketPath text) ↔
      text = s ∧ ∃ path, s = "unix://" ++ path ∧ ¬ IsAbsolute path := by
  cases scheme s with
  | unix path => rw [parse_unix]; split <;> simp [*, eq_comm]
  | tcp address => rw [parse_tcp]; split <;> simp [(unix_ne_tcp _ _).symm]
  | bare hunix htcp => rw [parse_bare hunix htcp]; split <;> simp [*]

theorem parse_eq_invalidAddress_iff {address : String} :
    parse s = .error (.invalidAddress address) ↔
      s = "tcp://" ++ address ∧ ∀ a : SocketAddress, ¬ a.HasText address.toList := by
  simp only [← SocketAddress.parse_eq_some_iff]
  cases scheme s with
  | unix path => rw [parse_unix]; split <;> simp
  | tcp address => rw [parse_tcp]; split <;> simp [*] <;> grind
  | bare hunix htcp => rw [parse_bare hunix htcp]; split <;> simp [*]

theorem parse_eq_unsupportedScheme_iff {text : String} :
    parse s = .error (.unsupportedScheme text) ↔
      text = s ∧ (∀ path, s ≠ "unix://" ++ path) ∧ (∀ address, s ≠ "tcp://" ++ address) ∧
        ¬ IsAbsolute s := by
  cases scheme s with
  | unix path => rw [parse_unix]; split <;> simp
  | tcp address => rw [parse_tcp]; split <;> simp
  | bare hunix htcp => rw [parse_bare hunix htcp]; split <;> simp [*, eq_comm]

/-- **What a text is read as is read back from its text.** -/
theorem parse_text_of_ok (h : parse s = .ok e) : parse e.text = .ok e := by
  cases e with
  | unix path =>
    have habsolute : IsAbsolute path := by
      rcases parse_eq_ok_unix_iff.mp h with ⟨-, hpath⟩ | ⟨rfl, hpath⟩
      · exact hpath
      · exact hpath
    exact parse_eq_ok_unix_iff.mpr (.inl ⟨rfl, habsolute⟩)
  | tcp a => exact parse_eq_ok_tcp_iff.mpr ⟨a.text, rfl, a.hasText_text⟩

/-- **Every answer with the texts that get it, for every text.** -/
theorem readsExactly (s : String) : ReadsExactly s where
  unix _ := parse_eq_ok_unix_iff
  tcp _ := parse_eq_ok_tcp_iff
  invalidSocketPath _ := parse_eq_invalidSocketPath_iff
  invalidAddress _ := parse_eq_invalidAddress_iff
  unsupportedScheme _ := parse_eq_unsupportedScheme_iff
  readBack _ := parse_text_of_ok

end Endpoint

end VolumeNode
