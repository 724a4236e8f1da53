import MeshTelemetry.Address.Reader
import MeshTelemetry.Proofs.Text

/-!
# Scanners of addresses

Every scanner of an address takes a text from the front, and it looks no further than the first character
that no part of an address and no port is written with: behind such a character anything may stand
(`Scanner.Plain`). The percent sign in front of a scope and the bracket behind an IPv6 address are such
characters. So what a scanner has taken is free of them, and read alone it is read as the same
(`Scanner.Plain.exists_taken`).
-/

namespace MeshTelemetry

/-- A character that is in no IP address and in no port. -/
structure Foreign (c : Char) : Prop where
  digit : c.isDigit = false
  hex : isHexDigit c = false
  colon : c ≠ ':'
  dot : c ≠ '.'

theorem foreign_percent : Foreign '%' :=
  ⟨by decide, by decide, by decide, by decide⟩

theorem foreign_bracket : Foreign ']' :=
  ⟨by decide, by decide, by decide, by decide⟩

section

variable {p : Char → Bool} {c : Char} (stop : p c = false) (text more : List Char)

include stop

theorem takeWhile_append_stop : (text ++ c :: more).takeWhile p = text.takeWhile p := by
  induction text with
  | nil => simp [stop]
  | cons d text ih => simp [List.takeWhile_cons, ih]

theorem dropWhile_append_stop :
    (text ++ c :: more).dropWhile p = text.dropWhile p ++ c :: more := by
  induction text with
  | nil => simp [stop]
  | cons d text ih =>
    by_cases inside : p d
    · simp [inside, ih]
    · simp [inside]

end

namespace Scanner

/-- The scanner takes its answer from the front of a text, and whatever stands behind a foreign character
makes no difference to it. -/
structure Plain {α : Type} (scan : Scanner α) : Prop where
  suffix : ∀ {text x rest}, scan text = some (x, rest) → rest <:+ text
  stops : ∀ {c}, Foreign c → ∀ text more,
    scan (text ++ c :: more) = (scan text).map (Prod.map id (· ++ c :: more))

section

variable {α β : Type}

/-- What a scanner has taken holds no foreign character. Read alone it gives the same answer, if it was
all or a foreign character stands behind it. -/
theorem Plain.exists_taken {scan : Scanner α} (plain : Plain scan) {text rest : List Char} {x : α}
    (found : scan text = some (x, rest)) :
    ∃ taken, text = taken ++ rest ∧ (∀ c, Foreign c → c ∉ taken) ∧
      ∀ c more, Foreign c → rest = c :: more → scan taken = some (x, []) := by
  obtain ⟨taken, rfl⟩ := plain.suffix found
  refine ⟨taken, rfl, fun c foreign inside => ?_, fun c more foreign here => ?_⟩
  · obtain ⟨before, behind, rfl⟩ := List.append_of_mem inside
    rw [List.append_assoc, List.cons_append, plain.stops foreign] at found
    obtain ⟨⟨y, short⟩, -, same⟩ := Option.map_eq_some_iff.mp found
    -- What is left would be longer than what was left.
    have lengths := congrArg (List.length ∘ Prod.snd) same
    simp only [Function.comp, Prod.map_snd, List.length_append, List.length_cons] at lengths
    omega
  · subst here
    rw [plain.stops foreign] at found
    obtain ⟨⟨y, short⟩, alone, same⟩ := Option.map_eq_some_iff.mp found
    obtain ⟨rfl, left⟩ := Prod.mk.inj same
    rw [alone, List.append_left_eq_self.mp left]
    rfl

theorem plain_none : Plain (fun _ => none : Scanner α) where
  suffix found := by cases found
  stops _ _ _ := rfl

/-- An answer that was there before, if there was one. -/
theorem plain_lift (x? : Option α) : Plain (fun text => do return (← x?, text)) where
  suffix found := by
    cases x? with
    | none => cases found
    | some x =>
      cases found
      exact List.suffix_refl _
  stops _ _ _ := by cases x? <;> rfl

theorem plain_return (x : α) : Plain (fun text => some (x, text)) :=
  plain_lift (some x)

theorem Plain.ite {p : Prop} [Decidable p] {a b : Scanner α} (yes : p → Plain a)
    (no : ¬p → Plain b) : Plain (fun text => if p then a text else b text) := by
  by_cases holds : p
  · simpa only [if_pos holds] using yes holds
  · simpa only [if_neg holds] using no holds

/-- A scanner in case another one finds nothing. -/
theorem Plain.or {a b : Scanner α} (first : Plain a) (second : Plain b) :
    Plain (fun text => (a text).or (b text)) where
  suffix {text x rest} found := by
    rcases Option.or_eq_some_iff.mp found with taken | ⟨-, taken⟩
    · exact first.suffix taken
    · exact second.suffix taken
  stops foreign text more := by
    rw [first.stops foreign, second.stops foreign]
    cases a text <;> rfl

/-- A scanner behind another one. -/
theorem Plain.bind {scan : Scanner α} {k : α × List Char → Option (β × List Char)}
    (first : Plain scan) (second : ∀ x, Plain (fun rest => k (x, rest))) :
    Plain (fun text => scan text >>= k) where
  suffix found := by
    obtain ⟨⟨x, middle⟩, taken, left⟩ := Option.bind_eq_some_iff.mp found
    exact ((second x).suffix left).trans (first.suffix taken)
  stops foreign text more := by
    rw [first.stops foreign]
    cases scan text with
    | none => rfl
    | some p => exact (second p.1).stops foreign p.2 more

end

end Scanner

open Scanner

/-! ## Characters and numbers -/

theorem plain_scanChar {expected : Char} (native : ¬Foreign expected) :
    Plain (scanChar expected) where
  suffix {text _ rest} found := by
    cases text with
    | nil => cases found
    | cons c text =>
      dsimp only [scanChar] at found
      split at found
      · cases found
        exact List.suffix_cons ..
      · cases found
  stops {c} foreign text more := by
    cases text with
    | nil =>
      have other : c ≠ expected := fun same => native (same ▸ foreign)
      simp [scanChar, other]
    | cons d text =>
      unfold scanChar
      rw [List.cons_append]
      dsimp only
      split <;> rfl

theorem plain_scanColon : Plain (scanChar ':') :=
  plain_scanChar fun foreign => foreign.colon rfl

theorem plain_scanDot : Plain (scanChar '.') :=
  plain_scanChar fun foreign => foreign.dot rfl

theorem plain_scanNatural (limit : Nat) : Plain (scanNatural limit) where
  suffix {text _ rest} found := by
    unfold scanNatural at found
    dsimp only at found
    split at found
    · cases found
      exact List.dropWhile_suffix _
    · cases found
  stops foreign text more := by
    unfold scanNatural
    rw [takeWhile_append_stop foreign.digit, dropWhile_append_stop foreign.digit]
    dsimp only
    split <;> rfl

theorem plain_scanOctet : Plain scanOctet where
  suffix {text _ rest} found := by
    unfold scanOctet at found
    dsimp only at found
    split at found
    · cases found
    · cases found
      exact List.dropWhile_suffix _
  stops foreign text more := by
    unfold scanOctet
    rw [takeWhile_append_stop foreign.digit, dropWhile_append_stop foreign.digit]
    dsimp only
    split <;> rfl

theorem plain_scanGroup : Plain scanGroup where
  suffix {text _ rest} found := by
    unfold scanGroup at found
    dsimp only at found
    split at found
    · cases found
    · cases found
      exact List.dropWhile_suffix _
  stops foreign text more := by
    unfold scanGroup
    rw [takeWhile_append_stop foreign.hex, dropWhile_append_stop foreign.hex]
    dsimp only
    split <;> rfl

theorem Ipv4.plain_scan : Plain Ipv4.scan :=
  plain_scanOctet.bind fun _ => plain_scanDot.bind fun _ => plain_scanOctet.bind fun _ =>
    plain_scanDot.bind fun _ => plain_scanOctet.bind fun _ => plain_scanDot.bind fun _ =>
      plain_scanOctet.bind fun _ => plain_return _

theorem plain_scanPort : Plain scanPort :=
  plain_scanColon.bind fun _ => (plain_scanNatural 65535).bind fun _ => plain_return _

theorem plain_scanSocketV4 : Plain scanSocketV4 :=
  Ipv4.plain_scan.bind fun _ => plain_scanPort.bind fun _ => plain_return _

/-! ## IPv6 addresses -/

theorem plain_afterColon {α : Type} {scan : Scanner α} (plain : Plain scan) (first : Bool) :
    Plain (afterColon first scan) :=
  .ite (fun _ => plain) fun _ => plain_scanColon.bind fun _ => plain

/-- The groups of an address, as a scanner that always finds something. -/
def groupScanner (first : Bool) (limit : Nat) : Scanner (List UInt16 × Bool) := fun text =>
  let (groups, quad, rest) := scanGroups first limit text
  some ((groups, quad), rest)

/-- A dotted quad or another group and what follows it, or else nothing. -/
theorem groupScanner_succ (first : Bool) (limit : Nat) :
    groupScanner first (limit + 1) = fun text =>
      ((if limit = 0 then none else do
          let (ip, rest) ← afterColon first Ipv4.scan text
          return ((ip.groups, true), rest)).or do
        let (g, rest) ← afterColon first scanGroup text
        let (more, rest) ← groupScanner false limit rest
        return ((g :: more.1, more.2), rest)).or (some (([], false), text)) := by
  funext text
  unfold groupScanner
  rw [scanGroups]
  by_cases last : limit = 0
  · cases group : afterColon first scanGroup text <;> simp [last]
  · cases afterColon first Ipv4.scan text with
    | some p => simp [last]
    | none => cases group : afterColon first scanGroup text <;> simp [last]

theorem plain_groupScanner (first : Bool) (limit : Nat) : Plain (groupScanner first limit) := by
  induction limit generalizing first with
  | zero => exact plain_return _
  | succ limit ih =>
    have quad : Plain fun text => do
        let (ip, rest) ← afterColon first Ipv4.scan text
        return ((ip.groups, true), rest) :=
      (plain_afterColon Ipv4.plain_scan first).bind fun _ => plain_return _
    have group : Plain fun text => do
        let (g, rest) ← afterColon first scanGroup text
        let (more, rest) ← groupScanner false limit rest
        return ((g :: more.1, more.2), rest) :=
      (plain_afterColon plain_scanGroup first).bind fun _ => (ih false).bind fun _ => plain_return _
    rw [groupScanner_succ]
    exact ((Plain.ite (fun _ => plain_none) fun _ => quad).or group).or (plain_return _)

theorem Ipv6.scan_eq : Ipv6.scan = fun text => do
    let (head, text) ← groupScanner true 8 text
    if head.1.length = 8 then return (← Ipv6.ofGroups? head.1, text)
    else if head.2 then none
    else
      let (_, text) ← scanChar ':' text
      let (_, text) ← scanChar ':' text
      let (tail, text) ← groupScanner true (7 - head.1.length) text
      let zeros := List.replicate (8 - head.1.length - tail.1.length) 0
      return (← Ipv6.ofGroups? (head.1 ++ zeros ++ tail.1), text) := rfl

theorem Ipv6.plain_scan : Plain Ipv6.scan := by
  rw [Ipv6.scan_eq]
  refine (plain_groupScanner true 8).bind fun head => ?_
  refine .ite (fun _ => plain_lift _) fun _ => .ite (fun _ => plain_none) fun _ => ?_
  exact plain_scanColon.bind fun _ => plain_scanColon.bind fun _ =>
      (plain_groupScanner true _).bind fun tail => plain_lift _

end MeshTelemetry
