import Mathlib.Data.List.Forall2
import VolumeNode.Address.Socket

/-!
# The grammar of socket addresses

Which texts are texts of an address, told without the reader.

* `IsNumber` is a number in digits, `Ipv4.HasText` four bytes between dots. `HasGroups` are groups
  between colons, the last two perhaps as four bytes. `Ipv6.HasText` has eight groups, or fewer
  around a double colon. `SocketAddress.HasText` is an address with its scope and port.
* A reader takes as much as it can. So what it reads is a text of the grammar and something that
  cannot go on with it: no digit behind a number (`NoDigit`), a double colon, a scope or a bracket
  behind groups (`EndsGroups`). With that said, reading is exact: `readNumber_eq_some_iff`,
  `readIpv4_eq_some_iff`, `readGroups_append` and `hasGroups_of_readGroups`.
* **`parse_eq_some_iff`**: a text is read as an address exactly if it is a text of it. So no text
  is a text of two addresses (`HasText.unique`).
-/

namespace VolumeNode

/-! ## 1. Texts of numbers -/

namespace AddressReader

/-- A number below a limit, in so many digits at most. -/
structure IsNumber (base limit : Nat) (longest : Option Nat) (leadingZeros : Bool) (n : Nat)
    (cs : List Char) : Prop where
  digits : ∃ ds, List.Forall₂ (fun c d => digit? base c = some d) cs ds ∧ digitsValue base ds = n
  nonempty : cs ≠ []
  short : ∀ k ∈ longest, cs.length ≤ k
  /-- Without zeros in front, only zero itself begins with one. -/
  plain : leadingZeros = false → cs.head? = some '0' → cs.length ≤ 1
  below : n < limit

/-- A text does not go on with a digit. -/
def NoDigit (base : Nat) (rest : List Char) : Prop := ∀ c ∈ rest.head?, digit? base c = none

variable {base limit n : Nat} {longest : Option Nat} {leadingZeros : Bool}
  {c : Char} {cs rest text : List Char}

@[simp] theorem noDigit_nil : NoDigit base [] := by simp [NoDigit]

@[simp] theorem noDigit_cons : NoDigit base (c :: rest) ↔ digit? base c = none := by
  simp [NoDigit]

/-- What is taken off the front are digits, and no digit is left behind them. -/
theorem exists_of_takeDigits (base : Nat) (text : List Char) :
    ∃ cs, text = cs ++ (takeDigits base text).2 ∧
      List.Forall₂ (fun c d => digit? base c = some d) cs (takeDigits base text).1 ∧
      NoDigit base (takeDigits base text).2 := by
  fun_induction takeDigits base text with
  | case1 => exact ⟨[], rfl, .nil, noDigit_nil⟩
  | case2 c rest hc => exact ⟨[], rfl, .nil, noDigit_cons.mpr hc⟩
  | case3 c rest d hc ds rest' h ih =>
    rw [h] at ih
    obtain ⟨cs, rfl, hds, hrest⟩ := ih
    exact ⟨c :: cs, rfl, .cons hc hds, hrest⟩

theorem takeDigits_append {ds : List Nat}
    (hds : List.Forall₂ (fun c d => digit? base c = some d) cs ds) (hrest : NoDigit base rest) :
    takeDigits base (cs ++ rest) = (ds, rest) := by
  induction hds with
  | nil =>
    cases rest with
    | nil => rfl
    | cons c rest => simp [takeDigits, noDigit_cons.mp hrest]
  | cons hc _ ih => simp [takeDigits, hc, ih]

theorem digit?_eq_zero_iff (hbase : 0 < base) : digit? base c = some 0 ↔ c = '0' := by
  constructor
  · intro h
    simp only [digit?, Option.filter_eq_some_iff] at h
    obtain ⟨hvalue, -⟩ := h
    split at hvalue
    next hc =>
      have hle : c.toNat ≤ '0'.toNat := Nat.sub_eq_zero_iff_le.mp (Option.some.inj hvalue)
      exact Char.le_antisymm hle hc.1
    · split at hvalue
      · simp at hvalue
      · split at hvalue <;> simp at hvalue
  · rintro rfl
    simp [digit?, hbase]

/-- Digits begin with zero exactly if their text does. -/
theorem head?_digits_iff (hbase : 0 < base) {ds : List Nat}
    (hds : List.Forall₂ (fun c d => digit? base c = some d) cs ds) :
    ds.head? = some 0 ↔ cs.head? = some '0' := by
  cases hds with
  | nil => simp
  | @cons c d _ _ hd _ =>
    simp only [List.head?_cons, Option.some.injEq]
    rw [← digit?_eq_zero_iff hbase, hd, Option.some.injEq]

theorem readNumber_of_takeDigits {ds : List Nat} {r : Nat × List Char}
    (h : takeDigits base text = (ds, rest)) :
    readNumber base limit longest leadingZeros text = some r ↔
      ds ≠ [] ∧ (∀ k ∈ longest, ds.length ≤ k) ∧
        (leadingZeros = false → ds.head? = some 0 → ds.length ≤ 1) ∧
        digitsValue base ds < limit ∧ (digitsValue base ds, rest) = r := by
  simp only [readNumber, h]
  cases longest <;> cases leadingZeros <;> simp <;> grind

/-- **A number is read exactly if it is a number of the grammar, up to where no digit follows.** -/
theorem readNumber_eq_some_iff (hbase : 0 < base) :
    readNumber base limit longest leadingZeros text = some (n, rest) ↔
      ∃ cs, text = cs ++ rest ∧ IsNumber base limit longest leadingZeros n cs ∧
        NoDigit base rest := by
  constructor
  · intro h
    obtain ⟨cs, htext, hds, hrest⟩ := exists_of_takeDigits base text
    obtain ⟨hne, hshort, hplain, hbelow, hr⟩ := (readNumber_of_takeDigits rfl).mp h
    obtain ⟨rfl, rfl⟩ := Prod.mk.inj hr
    refine ⟨cs, htext, ⟨⟨_, hds, rfl⟩, ?_, ?_, ?_, hbelow⟩, hrest⟩
    · rintro rfl
      exact hne (List.forall₂_nil_left_iff.mp hds)
    · rwa [hds.length_eq]
    · rwa [hds.length_eq, ← head?_digits_iff hbase hds]
  · rintro ⟨cs, rfl, h, hrest⟩
    obtain ⟨ds, hds, rfl⟩ := h.digits
    refine (readNumber_of_takeDigits (takeDigits_append hds hrest)).mpr ⟨?_, ?_, ?_, h.below, rfl⟩
    · rintro rfl
      exact h.nonempty (List.forall₂_nil_right_iff.mp hds)
    · exact hds.length_eq ▸ h.short
    · rw [head?_digits_iff hbase hds, ← hds.length_eq]
      exact h.plain

@[simp] theorem readChar_eq_some_iff : readChar c text = some rest ↔ text = c :: rest := by
  cases text with
  | nil => simp [readChar]
  | cons d text =>
    simp only [readChar, Option.ite_none_right_eq_some, Option.some.injEq, List.cons.injEq]

end AddressReader

/-! ## 2. Addresses of four bytes -/

open AddressReader

/-- A byte without zeros in front. -/
def AddressReader.IsByte (b : UInt8) (cs : List Char) : Prop :=
  IsNumber 10 256 (some 3) false b.toNat cs

/-- The four bytes of an address between dots. -/
def Ipv4.HasText (x : Ipv4) (cs : List Char) : Prop :=
  ∃ a b c d, IsByte x.a a ∧ IsByte x.b b ∧ IsByte x.c c ∧ IsByte x.d d ∧
    cs = a ++ '.' :: (b ++ '.' :: (c ++ '.' :: d))

namespace AddressReader

theorem readByte_eq_some_iff {b : UInt8} {text rest : List Char} :
    readByte text = some (b, rest) ↔
      ∃ cs, text = cs ++ rest ∧ IsByte b cs ∧ NoDigit 10 rest := by
  unfold readByte IsByte
  simp only [Option.map_eq_some_iff, Prod.exists, Prod.mk.injEq,
    readNumber_eq_some_iff (show 0 < 10 by decide)]
  constructor
  · rintro ⟨n, _, ⟨cs, htext, h, hrest⟩, rfl, rfl⟩
    have hn : (UInt8.ofNat n).toNat = n := UInt8.toNat_ofNat_of_lt' h.below
    exact ⟨cs, htext, hn.symm ▸ h, hrest⟩
  · rintro ⟨cs, htext, h, hrest⟩
    exact ⟨b.toNat, rest, ⟨cs, htext, h, hrest⟩, UInt8.ofNat_toNat, rfl⟩

/-- **Four bytes are read exactly if they stand in the text, up to where no digit follows.** -/
theorem readIpv4_eq_some_iff {x : Ipv4} {text rest : List Char} :
    readIpv4 text = some (x, rest) ↔
      ∃ cs, text = cs ++ rest ∧ x.HasText cs ∧ NoDigit 10 rest := by
  simp only [readIpv4, Option.bind_eq_bind, Option.bind_eq_some_iff, Prod.exists,
    readByte_eq_some_iff, readChar_eq_some_iff]
  constructor
  · rintro ⟨a, _, ⟨as, rfl, ha, -⟩, _, rfl, b, _, ⟨bs, rfl, hb, -⟩, _, rfl, c, _, ⟨cs, rfl, hc, -⟩,
      _, rfl, d, _, ⟨ds, rfl, hd, hrest⟩, h⟩
    cases h
    exact ⟨_, by simp, ⟨as, bs, cs, ds, ha, hb, hc, hd, rfl⟩, hrest⟩
  · rintro ⟨_, rfl, ⟨as, bs, cs, ds, ha, hb, hc, hd, rfl⟩, hrest⟩
    have hdot : ∀ t, NoDigit 10 ('.' :: t) := fun t => noDigit_cons.mpr (by decide)
    simp only [List.append_assoc, List.cons_append]
    exact ⟨x.a, _, ⟨as, rfl, ha, hdot _⟩, _, rfl, x.b, _, ⟨bs, rfl, hb, hdot _⟩, _, rfl,
      x.c, _, ⟨cs, rfl, hc, hdot _⟩, _, rfl, x.d, _, ⟨ds, rfl, hd, hrest⟩, rfl⟩

end AddressReader

/-! ## 3. Groups -/

namespace AddressReader

/-- The colon in front of every group but the first. -/
def colon (first : Bool) : List Char := if first then [] else [':']

/-- Groups between colons. The last two may be four bytes between dots, which the second flag says;
    the first flag is set where no colon stands in front. -/
inductive HasGroups : (first : Bool) → List UInt16 → (dotted : Bool) → List Char → Prop
  | empty {first : Bool} : HasGroups first [] false []
  | group {first dotted : Bool} {g : UInt16} {gs : List UInt16} {cs more : List Char}
      (number : IsNumber 16 65536 (some 4) true g.toNat cs)
      (behind : HasGroups false gs dotted more) :
      HasGroups first (g :: gs) dotted (colon first ++ (cs ++ more))
  | bytes {first : Bool} {x : Ipv4} {cs : List Char} (address : x.HasText cs) :
      HasGroups first x.groups true (colon first ++ cs)

/-- A text does not go on with a group: no digit, no dot that would make a number a byte, and no
    colon with a digit behind it. -/
structure EndsGroups (rest : List Char) : Prop where
  noDigit : NoDigit 16 rest
  noDot : rest.head? ≠ some '.'
  noGroup : ∀ more, rest = ':' :: more → NoDigit 16 more

variable {first dotted : Bool} {gs : List UInt16} {n : Nat} {cs rest text : List Char}

theorem IsNumber.not_noDigit {base limit : Nat} {longest : Option Nat} {leadingZeros : Bool}
    (h : IsNumber base limit longest leadingZeros n cs) : ¬ NoDigit base (cs ++ rest) := by
  obtain ⟨ds, hds, -⟩ := h.digits
  cases hds with
  | nil => exact absurd rfl h.nonempty
  | cons hc _ => simp [hc]

theorem readNumber_eq_none {base limit : Nat} {longest : Option Nat} {leadingZeros : Bool}
    (hbase : 0 < base) (h : NoDigit base text) :
    readNumber base limit longest leadingZeros text = none := by
  rw [Option.eq_none_iff_forall_not_mem]
  rintro ⟨n, rest⟩ hr
  obtain ⟨cs, rfl, hcs, -⟩ := (readNumber_eq_some_iff hbase).mp hr
  exact hcs.not_noDigit h

/-- A digit of base 10 is one of base 16. -/
theorem digit?_sixteen {c : Char} {d : Nat} (h : digit? 10 c = some d) : digit? 16 c = some d := by
  simp only [digit?, Option.filter_eq_some_iff, decide_eq_true_eq] at h ⊢
  exact ⟨h.1, by omega⟩

theorem NoDigit.ten (h : NoDigit 16 rest) : NoDigit 10 rest := by
  intro c hc
  rw [Option.eq_none_iff_forall_not_mem]
  intro d hd
  have := h c hc
  rw [digit?_sixteen hd] at this
  cases this

theorem readIpv4_eq_none_of_noDigit (h : NoDigit 16 text) : readIpv4 text = none := by
  simp [readIpv4, readByte, readNumber_eq_none (show 0 < 10 by decide) h.ten]

/-- Four bytes are not read where a group stands alone. -/
theorem readIpv4_eq_none_of_group {g : Nat} (hg : IsNumber 16 65536 (some 4) true g cs)
    (hrest : NoDigit 16 rest) (hdot : rest.head? ≠ some '.') : readIpv4 (cs ++ rest) = none := by
  rw [Option.eq_none_iff_forall_not_mem]
  rintro ⟨x, more⟩ hx
  obtain ⟨_, htext, ⟨as, bs, cs', ds, ha, -, -, -, rfl⟩, -⟩ := readIpv4_eq_some_iff.mp hx
  -- The digits in front end where the group does, and there the dot has to stand.
  obtain ⟨gds, hgds, -⟩ := hg.digits
  obtain ⟨ads, hads, -⟩ := ha.digits
  have hgroup := takeDigits_append hgds hrest
  have hbyte := takeDigits_append (hads.imp fun _ _ => digit?_sixteen)
    (noDigit_cons.mpr (show digit? 16 '.' = none by decide) :
      NoDigit 16 ('.' :: (bs ++ '.' :: (cs' ++ '.' :: ds) ++ more)))
  rw [htext] at hgroup
  simp only [List.append_assoc, List.cons_append] at hgroup hbyte
  rw [hgroup] at hbyte
  obtain ⟨-, rfl⟩ := Prod.mk.inj hbyte
  exact hdot rfl

theorem readColon_eq_some_iff : readColon first text = some rest ↔ text = colon first ++ rest := by
  cases first <;> simp [readColon, colon]

/-- **What is read as groups are groups of the grammar.** -/
theorem hasGroups_of_readGroups (n : Nat) (first : Bool) (text : List Char) :
    ∃ cs, text = cs ++ (readGroups n first text).2.2 ∧
      HasGroups first (readGroups n first text).1 (readGroups n first text).2.1 cs ∧
      (readGroups n first text).1.length ≤ n := by
  fun_induction readGroups n first text with
  | case1 => exact ⟨[], rfl, .empty, Nat.le_refl _⟩
  | case2 => exact ⟨[], rfl, .empty, Nat.zero_le _⟩
  | case3 n first text inner hcolon x rest hx =>
    obtain ⟨hn, hx⟩ := Option.ite_none_left_eq_some.mp hx
    obtain ⟨cs, rfl, hcs, -⟩ := readIpv4_eq_some_iff.mp hx
    refine ⟨colon first ++ cs, ?_, .bytes hcs, ?_⟩
    · rw [List.append_assoc, readColon_eq_some_iff.mp hcolon]
    · exact Nat.succ_le_succ (Nat.one_le_iff_ne_zero.mpr hn)
  | case4 => exact ⟨[], rfl, .empty, Nat.zero_le _⟩
  | case5 n first text inner hcolon _ g rest hg gs dotted rest' hgs ih =>
    obtain ⟨cs, rfl, hcs, -⟩ := (readNumber_eq_some_iff (by decide)).mp hg
    rw [hgs] at ih
    obtain ⟨more, rfl, hmore, hlength⟩ := ih
    have hgroup : (UInt16.ofNat g).toNat = g := UInt16.toNat_ofNat_of_lt' hcs.below
    refine ⟨colon first ++ (cs ++ more), ?_, .group (hgroup.symm ▸ hcs) hmore, ?_⟩
    · rw [List.append_assoc, List.append_assoc, readColon_eq_some_iff.mp hcolon]
    · exact Nat.succ_le_succ hlength

/-- Behind a group stands a colon or what ends the groups. -/
theorem HasGroups.behind (h : HasGroups false gs dotted cs) (hrest : EndsGroups rest) :
    NoDigit 16 (cs ++ rest) ∧ (cs ++ rest).head? ≠ some '.' := by
  have hcolon : digit? 16 ':' = none := by decide
  cases h with
  | empty => exact ⟨hrest.noDigit, hrest.noDot⟩
  | group => exact ⟨noDigit_cons.mpr hcolon, by simp [colon]⟩
  | bytes => exact ⟨noDigit_cons.mpr hcolon, by simp [colon]⟩

/-- No group is read where none follows. -/
theorem EndsGroups.readGroups_eq (h : EndsGroups rest) :
    readGroups n first rest = ([], false, rest) := by
  cases n with
  | zero => rfl
  | succ n =>
    unfold readGroups
    cases hcolon : readColon first rest with
    | none => rfl
    | some inner =>
      have hinner : NoDigit 16 inner := by
        have htext := readColon_eq_some_iff.mp hcolon
        cases first with
        | false => exact h.noGroup inner htext
        | true => exact (show rest = inner from htext) ▸ h.noDigit
      simp [readIpv4_eq_none_of_noDigit hinner, readNumber_eq_none (show 0 < 16 by decide) hinner]

/-- **Groups of the grammar are read, if no group follows and there are not too many.** -/
theorem readGroups_append (h : HasGroups first gs dotted cs) (hrest : EndsGroups rest)
    (hn : gs.length ≤ n) : readGroups n first (cs ++ rest) = (gs, dotted, rest) := by
  induction h generalizing n with
  | empty => exact hrest.readGroups_eq
  | @group first dotted g gs cs more hg hmore ih =>
    obtain ⟨n, rfl⟩ : ∃ m, n = m + 1 := Nat.exists_eq_add_of_le' (Nat.lt_of_lt_of_le (by simp) hn)
    obtain ⟨hdigit, hdot⟩ := hmore.behind hrest
    have hnumber : readNumber 16 65536 (some 4) true (cs ++ (more ++ rest)) =
        some (g.toNat, more ++ rest) :=
      (readNumber_eq_some_iff (by decide)).mpr ⟨cs, rfl, hg, hdigit⟩
    have hcolon : readColon first (colon first ++ (cs ++ (more ++ rest))) =
        some (cs ++ (more ++ rest)) := readColon_eq_some_iff.mpr rfl
    simp only [List.append_assoc, readGroups, hcolon, readIpv4_eq_none_of_group hg hdigit hdot,
      ite_self, hnumber, ih (Nat.le_of_succ_le_succ hn), UInt16.ofNat_toNat]
  | @bytes first x cs hx =>
    obtain ⟨n, rfl⟩ : ∃ m, n = m + 2 := Nat.exists_eq_add_of_le' hn
    have hcolon : readColon first (colon first ++ (cs ++ rest)) = some (cs ++ rest) :=
      readColon_eq_some_iff.mpr rfl
    have hread : readIpv4 (cs ++ rest) = some (x, rest) :=
      readIpv4_eq_some_iff.mpr ⟨cs, rfl, hx, hrest.noDigit.ten⟩
    simp [readGroups, hcolon, hread]

theorem ofGroups_eq_some_iff {x : Ipv6} : ofGroups gs = some x ↔ gs = x.groups := by
  unfold ofGroups
  split
  next h =>
    simp only [Option.some.injEq]
    exact ⟨fun hx => hx ▸ rfl, fun hx => by cases x; subst hx; rfl⟩
  next h =>
    simp only [reduceCtorEq, false_iff]
    rintro rfl
    exact h x.size

end AddressReader

/-! ## 4. Addresses of eight groups -/

/-- The eight groups of an address between colons. A double colon may stand for any number of zero
    groups, but for one at least. -/
inductive Ipv6.HasText (x : Ipv6) : List Char → Prop
  | full {dotted : Bool} {cs : List Char} (groups : HasGroups true x.groups dotted cs) :
      x.HasText cs
  | short {front back : List UInt16} {dotted : Bool} {cs ds : List Char}
      (before : HasGroups true front false cs) (behind : HasGroups true back dotted ds)
      (zeros : Nat) (pos : 0 < zeros)
      (groups : x.groups = front ++ List.replicate zeros 0 ++ back) :
      x.HasText (cs ++ ':' :: ':' :: ds)

namespace AddressReader

variable {x : Ipv6} {cs rest text : List Char}

/-- A double colon belongs to no group. -/
theorem endsGroups_gap (rest : List Char) : EndsGroups (':' :: ':' :: rest) where
  noDigit := noDigit_cons.mpr (by decide)
  noDot := by simp
  noGroup := by
    rintro _ ⟨⟩
    exact noDigit_cons.mpr (by decide)

/-- What is read as eight groups is a text of them. -/
theorem hasText_of_readIpv6 (h : readIpv6 text = some (x, rest)) :
    ∃ cs, text = cs ++ rest ∧ x.HasText cs := by
  obtain ⟨cs, htext, hcs, hfront⟩ := hasGroups_of_readGroups 8 true text
  unfold readIpv6 at h
  generalize readGroups 8 true text = taken at *
  obtain ⟨front, dotted, behind⟩ := taken
  simp only [Option.pure_def, Option.bind_eq_bind] at *
  split at h
  next =>
    obtain ⟨y, hy, hr⟩ := Option.bind_eq_some_iff.mp h
    cases hr
    obtain rfl := ofGroups_eq_some_iff.mp hy
    exact ⟨cs, htext, .full hcs⟩
  next hsize =>
    split at h
    · cases h
    next hdotted =>
      simp only [Option.bind_eq_some_iff, readChar_eq_some_iff] at h
      obtain ⟨_, rfl, text, rfl, h⟩ := h
      obtain ⟨ds, hbehind, hds, hback⟩ := hasGroups_of_readGroups (8 - (front.length + 1)) true text
      generalize readGroups (8 - (front.length + 1)) true text = taken at *
      obtain ⟨back, dotted', rest'⟩ := taken
      obtain ⟨y, hy, hr⟩ := h
      cases hr
      rw [Bool.not_eq_true] at hdotted
      refine ⟨cs ++ ':' :: ':' :: ds, by simp [htext, hbehind], ?_⟩
      exact .short (hdotted ▸ hcs) hds _ (by omega) (ofGroups_eq_some_iff.mp hy).symm

/-- **A text of eight groups is read as these**, if no group follows. -/
theorem readIpv6_append (h : x.HasText cs) (hrest : EndsGroups rest) :
    readIpv6 (cs ++ rest) = some (x, rest) := by
  cases h with
  | full hgroups =>
    simp [readIpv6, readGroups_append hgroups hrest (Nat.le_of_eq x.size), x.size, ofGroups]
  | @short front back dotted cs ds hfront hback zeros hpos hgroups =>
    have hsize : front.length + (zeros + back.length) = 8 := by
      simpa [hgroups] using x.size
    have hbefore := readGroups_append hfront (endsGroups_gap (ds ++ rest))
      (show front.length ≤ 8 by omega)
    have hbehind := readGroups_append hback hrest
      (show back.length ≤ 8 - (front.length + 1) by omega)
    have hzeros : 8 - front.length - back.length = zeros := by omega
    have hwhole : ofGroups (front ++ List.replicate zeros 0 ++ back) = some x :=
      ofGroups_eq_some_iff.mpr hgroups.symm
    have hfull : front.length ≠ 8 := by omega
    rw [List.append_assoc, List.cons_append, List.cons_append]
    simp only [readIpv6, hbefore, hfull, if_false, Bool.false_eq_true, readChar, if_true,
      Option.bind_eq_bind, Option.bind_some, hbehind, hzeros, hwhole, Option.pure_def]

end AddressReader

/-! ## 5. Addresses with a port -/

namespace AddressReader

/-- A port. -/
def IsPort (port : UInt16) (cs : List Char) : Prop := IsNumber 10 65536 none true port.toNat cs

/-- A scope behind its sign; none is scope 0. -/
inductive HasScope : UInt32 → List Char → Prop
  | zero : HasScope 0 []
  | given {scope : UInt32} {cs : List Char}
      (number : IsNumber 10 4294967296 none true scope.toNat cs) : HasScope scope ('%' :: cs)

end AddressReader

/-- An address with its port; one of eight groups stands in brackets with its scope. -/
inductive SocketAddress.HasText : SocketAddress → List Char → Prop
  | v4 {x : Ipv4} {n : UInt16} {cs ps : List Char}
      (address : x.HasText cs) (port : IsPort n ps) :
      HasText (.v4 x n) (cs ++ ':' :: ps)
  | v6 {x : Ipv6} {z : UInt32} {n : UInt16} {cs zs ps : List Char}
      (address : x.HasText cs) (scope : HasScope z zs) (port : IsPort n ps) :
      HasText (.v6 x z n) ('[' :: (cs ++ (zs ++ ']' :: ':' :: ps)))

namespace AddressReader

variable {scope : UInt32} {port : UInt16} {a : SocketAddress} {cs rest text : List Char}

theorem readPort_eq_some_iff :
    readPort text = some (port, rest) ↔
      ∃ cs, text = ':' :: (cs ++ rest) ∧ IsPort port cs ∧ NoDigit 10 rest := by
  simp only [readPort, IsPort, Option.pure_def, Option.bind_eq_bind, Option.bind_eq_some_iff,
    readChar_eq_some_iff, Prod.exists, readNumber_eq_some_iff (show 0 < 10 by decide)]
  constructor
  · rintro ⟨_, rfl, n, _, ⟨cs, rfl, hn, hrest⟩, hr⟩
    cases hr
    have hport : (UInt16.ofNat n).toNat = n := UInt16.toNat_ofNat_of_lt' hn.below
    exact ⟨cs, rfl, hport.symm ▸ hn, hrest⟩
  · rintro ⟨cs, rfl, hn, hrest⟩
    exact ⟨_, rfl, port.toNat, rest, ⟨cs, rfl, hn, hrest⟩, by rw [UInt16.ofNat_toNat]⟩

/-- A scope is read up to where no digit follows; where none stands, nothing is taken. -/
theorem exists_of_readScope (text : List Char) :
    ∃ zs, text = zs ++ (readScope text).2 ∧ HasScope (readScope text).1 zs := by
  unfold readScope
  split
  next n rest h =>
    obtain ⟨inner, hchar, hn⟩ := Option.bind_eq_some_iff.mp h
    obtain rfl := readChar_eq_some_iff.mp hchar
    obtain ⟨cs, rfl, hn, -⟩ := (readNumber_eq_some_iff (by decide)).mp hn
    have hscope : (UInt32.ofNat n).toNat = n := UInt32.toNat_ofNat_of_lt' hn.below
    exact ⟨'%' :: cs, rfl, .given (hscope.symm ▸ hn)⟩
  · exact ⟨[], rfl, .zero⟩

theorem readScope_append (h : HasScope scope cs) :
    readScope (cs ++ ']' :: rest) = (scope, ']' :: rest) := by
  cases h with
  | zero => rfl
  | @given _ cs hn =>
    have hread : readNumber 10 4294967296 none true (cs ++ ']' :: rest) =
        some (scope.toNat, ']' :: rest) :=
      (readNumber_eq_some_iff (by decide)).mpr ⟨cs, rfl, hn, noDigit_cons.mpr (by decide)⟩
    simp [readScope, readChar, hread]

/-- Behind a scope or in its place stands nothing that belongs to the groups. -/
theorem HasScope.endsGroups (h : HasScope scope cs) : EndsGroups (cs ++ ']' :: rest) := by
  cases h with
  | zero => exact ⟨noDigit_cons.mpr (by decide), by simp, by simp⟩
  | given => exact ⟨noDigit_cons.mpr (by decide), by simp, by simp⟩

theorem whole_eq_some_iff {α : Type} {r : Option (α × List Char)} {x : α} :
    whole r = some x ↔ r = some (x, []) := by
  unfold whole
  split
  · simp
  next h =>
    simp only [reduceCtorEq, false_iff]
    rintro rfl
    exact h x rfl

theorem hasText_of_readV4 (h : readV4 text = some (a, [])) : a.HasText text := by
  simp only [readV4, Option.pure_def, Option.bind_eq_bind, Option.bind_eq_some_iff,
    Prod.exists, readIpv4_eq_some_iff, readPort_eq_some_iff] at h
  obtain ⟨x, _, ⟨cs, rfl, hx, -⟩, port, _, ⟨ps, rfl, hport, -⟩, hr⟩ := h
  cases hr
  rw [List.append_nil]
  exact .v4 hx hport

theorem hasText_of_readV6 (h : readV6 text = some (a, [])) : a.HasText text := by
  simp only [readV6, Option.pure_def, Option.bind_eq_bind, Option.bind_eq_some_iff,
    Prod.exists, readChar_eq_some_iff, readPort_eq_some_iff] at h
  obtain ⟨inner, rfl, x, behind, hx, _, hbracket, port, _, ⟨ps, rfl, hport, -⟩, hr⟩ := h
  cases hr
  obtain ⟨cs, rfl, hcs⟩ := hasText_of_readIpv6 hx
  obtain ⟨zs, hzone, hscope⟩ := exists_of_readScope behind
  have hbehind : cs ++ behind = cs ++ (zs ++ ']' :: ':' :: ps) := by
    rw [hbracket, List.append_nil] at hzone
    rw [← hzone]
  rw [hbehind]
  exact .v6 hcs hscope hport

theorem parse_of_hasText {s : String} (h : a.HasText s.toList) :
    SocketAddress.parse s = some a := by
  unfold SocketAddress.parse
  generalize s.toList = text at h
  cases h with
  | @v4 x port cs ps hx hport =>
    have haddress : readIpv4 (cs ++ ':' :: ps) = some (x, ':' :: ps) :=
      readIpv4_eq_some_iff.mpr ⟨cs, rfl, hx, noDigit_cons.mpr (by decide)⟩
    have hbehind : readPort (':' :: ps) = some (port, []) :=
      readPort_eq_some_iff.mpr ⟨ps, by simp, hport, noDigit_nil⟩
    simp [readV4, haddress, hbehind, whole]
  | @v6 x scope port cs zs ps hx hscope hport =>
    have hv4 : readIpv4 ('[' :: (cs ++ (zs ++ ']' :: ':' :: ps))) = none :=
      readIpv4_eq_none_of_noDigit (noDigit_cons.mpr (by decide))
    have hbehind : readPort (':' :: ps) = some (port, []) :=
      readPort_eq_some_iff.mpr ⟨ps, by simp, hport, noDigit_nil⟩
    simp [readV4, hv4, readV6, readChar, readIpv6_append hx hscope.endsGroups,
      readScope_append hscope, hbehind, whole]

end AddressReader

namespace SocketAddress

variable {a b : SocketAddress} {s : String}

/-- **A text is read as an address exactly if it is a text of it.** -/
theorem parse_eq_some_iff : parse s = some a ↔ a.HasText s.toList := by
  refine ⟨fun h => ?_, parse_of_hasText⟩
  rcases Option.or_eq_some_iff.mp h with h | ⟨-, h⟩
  · exact hasText_of_readV4 (whole_eq_some_iff.mp h)
  · exact hasText_of_readV6 (whole_eq_some_iff.mp h)

/-- No text is a text of two addresses. -/
theorem HasText.unique (ha : a.HasText s.toList) (hb : b.HasText s.toList) : a = b :=
  Option.some.inj ((parse_of_hasText ha).symm.trans (parse_of_hasText hb))

end SocketAddress

end VolumeNode
