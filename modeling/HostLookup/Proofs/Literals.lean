import HostLookup.Address.Parser
import HostLookup.Address.Printer
import HostLookup.Engine
import HostLookup.Proofs.Numerals

/-! Address literals. The written form of an address is read as just that address: the four numbers of an IPv4
address, and the groups of an IPv6 address on both sides of the zeros that are left out. -/
namespace HostLookup
open Text

@[simp] theorem skip_self (c : Char) (rest : List Char) : skip c (c :: rest) = some rest :=
  if_pos rfl

def Colon (rest : List Char) : Prop :=
  ∀ head ∈ rest.head?, head = ':'

theorem Colon.nil : Colon [] := by
  simp [Colon]

theorem Colon.cons (rest : List Char) : Colon (':' :: rest) := by
  simp [Colon]

theorem Colon.stops {rest : List Char} (colon : Colon rest) {p : Char → Bool} (other : p ':' = false) :
    Stops p rest := by
  intro head first
  rw [colon head first]
  exact other

namespace Ipv4

theorem readOctet_decimal (octet : UInt8) {rest : List Char}
    (stops : Stops (fun c => (Numeral.digitValue c).isSome) rest) :
    readOctet (Numeral.decimal octet.toNat ++ rest) = some (octet, rest) := by
  have digits := Numeral.digits_decimal octet.toNat
  have small : octet.toNat < 256 := octet.toNat_lt
  have short : (Numeral.decimal octet.toNat).length ≤ 3 :=
    (Numeral.written_decimal _).length_le (k := 2) (small.trans (by decide))
  have plain : (Numeral.decimal octet.toNat).length = 1 ∨ (Numeral.decimal octet.toNat).head? ≠ some '0' := by
    rcases Nat.lt_or_ge octet.toNat 10 with single | large
    · exact .inl (by rw [Numeral.decimal, if_pos single]; rfl)
    · exact .inr (Numeral.head?_decimal (by omega))
  have fits : (3 < (Numeral.decimal octet.toNat).length || ((Numeral.decimal octet.toNat).length ≠ 1 &&
      (Numeral.decimal octet.toNat).head? = some '0')) = false := by
    rcases plain with single | headed
    · simp [single]
    · simp [headed, Nat.not_lt.mpr short]
  unfold readOctet
  dsimp only
  rw [stops.takeWhile_eq digits, stops.dropWhile_eq digits, fits, Numeral.natural?_decimal]
  simp [small]

theorem read_print (ip : Ipv4) {rest : List Char} (stops : Stops (fun c => (Numeral.digitValue c).isSome) rest) :
    read (ip.print ++ rest) = some (ip, rest) := by
  have dot (more : List Char) : Stops (fun c => (Numeral.digitValue c).isSome) ('.' :: more) := .cons rfl
  simp only [print, List.append_assoc, List.cons_append]
  simp [read, readOctet_decimal, dot, stops]

theorem read_eq_none {cs : List Char}
    (other : (cs.dropWhile fun c => (Numeral.digitValue c).isSome).head? ≠ some '.') : read cs = none := by
  unfold read
  cases octet : readOctet cs with
  | none => rfl
  | some first =>
    have rest : first.2 = cs.dropWhile fun c => (Numeral.digitValue c).isSome := by
      unfold readOctet at octet
      dsimp only at octet
      split at octet
      · contradiction
      · obtain ⟨n, -, rfl⟩ := Option.map_eq_some_iff.mp octet
        rfl
    have undotted : skip '.' first.2 = none := by
      rw [rest]
      generalize cs.dropWhile _ = left at other
      cases left with
      | nil => rfl
      | cons head more => exact if_neg fun same => other (congrArg some same)
    simp [undotted]

end Ipv4

namespace Ipv6

theorem hexNumber_of_written {n : Nat} {cs : List Char} (written : Numeral.Written 16 Numeral.hexDigit n cs) :
    hexNumber cs = n := by
  have last (m : Nat) (small : m < 16) : (Numeral.hexValue (Numeral.hexDigit m)).getD 0 = m := by
    rw [Numeral.hexValue_hexDigit m small, Option.getD_some]
  induction written with
  | @single n small => simp [hexNumber, last n small]
  | @more n front large rest ih =>
    rw [hexNumber] at ih ⊢
    rw [List.foldl_append, ih, List.foldl_cons, List.foldl_nil, last (n % 16) (Nat.mod_lt n (by omega))]
    omega

section Groups

variable {run rest : List Char}

theorem ipv4_read_eq_none (digits : ∀ c ∈ run, (Numeral.hexValue c).isSome) (colon : Colon rest) :
    Ipv4.read (run ++ rest) = none := by
  refine Ipv4.read_eq_none ?_
  induction run with
  | nil =>
    cases rest with
    | nil => simp
    | cons head rest =>
      obtain rfl := colon head rfl
      simp [Numeral.digitValue]
  | cons c run ih =>
    rw [List.cons_append, List.dropWhile_cons]
    split
    · exact ih fun d member => digits d (List.mem_cons_of_mem c member)
    · rw [List.head?_cons, ne_eq, Option.some.injEq]
      rintro rfl
      have hex := digits '.' List.mem_cons_self
      contradiction

theorem readGroup_hexadecimal (group : UInt16) (colon : Colon rest) :
    readGroup (Numeral.hexadecimal group.toNat ++ rest) = some (group, rest) := by
  have digits := Numeral.digits_hexadecimal group.toNat
  have stops : Stops (fun c => (Numeral.hexValue c).isSome) rest := colon.stops rfl
  have short : (Numeral.hexadecimal group.toNat).length ≤ 4 :=
    (Numeral.written_hexadecimal _).length_le (k := 3) group.toNat_lt
  unfold readGroup
  dsimp only
  rw [stops.takeWhile_eq digits, stops.dropWhile_eq digits,
    hexNumber_of_written (Numeral.written_hexadecimal _)]
  simp [(Numeral.written_hexadecimal _).ne_nil, Nat.not_lt.mpr short]

/-- No group follows: the text ends, or two colons stand for zeros. -/
inductive Closes : List Char → Prop where
  | nil : Closes []
  | gap (more : List Char) : Closes (':' :: ':' :: more)

theorem Closes.colon (closes : Closes rest) : Colon rest := by
  cases closes with
  | nil => exact .nil
  | gap more => exact .cons _

theorem Closes.readGroups (closes : Closes rest) (room : Nat) (isFirst : Bool) :
    readGroups room isFirst rest = ⟨[], false, rest⟩ := by
  have nothing {more : List Char} (colon : Colon more) : Ipv4.read more = none ∧ readGroup more = none := by
    have stops : Stops (fun c => (Numeral.hexValue c).isSome) more := colon.stops rfl
    have empty : ([] ++ more).takeWhile (fun c => (Numeral.hexValue c).isSome) = [] := stops.takeWhile_eq (by simp)
    have unread : Ipv4.read ([] ++ more) = none := ipv4_read_eq_none (by simp) colon
    rw [List.nil_append] at empty unread
    exact ⟨unread, by simp [readGroup, empty]⟩
  have unread : (separated isFirst rest).bind Ipv4.read = none ∧ (separated isFirst rest).bind readGroup = none := by
    cases isFirst with
    | true => exact nothing closes.colon
    | false =>
      cases closes with
      | nil => exact ⟨rfl, rfl⟩
      | gap more => simpa [separated] using nothing (.cons more)
  cases room with
  | zero => rfl
  | succ room => simp [Ipv6.readGroups, unread]

def following (groups : List UInt16) : List Char :=
  groups.flatMap fun group => ':' :: Numeral.hexadecimal group.toNat

theorem following_cons (group : UInt16) (groups : List UInt16) :
    following (group :: groups) = ':' :: (Numeral.hexadecimal group.toNat ++ following groups) :=
  rfl

theorem colon_following (groups : List UInt16) (colon : Colon rest) : Colon (following groups ++ rest) := by
  cases groups with
  | nil => exact colon
  | cons group groups => exact .cons _

theorem printGroups_cons (group : UInt16) (groups : List UInt16) :
    printGroups (group :: groups) = Numeral.hexadecimal group.toNat ++ following groups := by
  induction groups generalizing group with
  | nil => simp [printGroups, following]
  | cons next groups ih =>
    rw [printGroups, ih next, following_cons]
    simp

theorem readGroups_succ {room : Nat} {isFirst : Bool} {text : List Char} (group : UInt16) (colon : Colon rest)
    (sep : separated isFirst text = some (Numeral.hexadecimal group.toNat ++ rest)) :
    readGroups (room + 1) isFirst text =
      ⟨group :: (readGroups room false rest).groups, (readGroups room false rest).closed,
        (readGroups room false rest).rest⟩ := by
  -- An IPv4 address is tried at every group, before the group.
  have plain := ipv4_read_eq_none (Numeral.digits_hexadecimal group.toNat) colon
  simp [readGroups, sep, plain, readGroup_hexadecimal group colon]

theorem readGroups_following {groups : List UInt16} {room : Nat} (fits : groups.length ≤ room)
    (closes : Closes rest) : readGroups room false (following groups ++ rest) = ⟨groups, false, rest⟩ := by
  induction groups generalizing room with
  | nil => exact closes.readGroups room false
  | cons group groups ih =>
    obtain ⟨room, rfl⟩ : ∃ less, room = less + 1 := ⟨room - 1, by grind⟩
    have sep : separated false (following (group :: groups) ++ rest) =
        some (Numeral.hexadecimal group.toNat ++ (following groups ++ rest)) := by
      simp [following_cons, separated]
    rw [readGroups_succ group (colon_following groups closes.colon) sep, ih (by simpa using fits)]

theorem readGroups_printGroups {groups : List UInt16} {room : Nat} (fits : groups.length ≤ room)
    (closes : Closes rest) : readGroups room true (printGroups groups ++ rest) = ⟨groups, false, rest⟩ := by
  cases groups with
  | nil => exact closes.readGroups room true
  | cons group groups =>
    obtain ⟨room, rfl⟩ : ∃ less, room = less + 1 := ⟨room - 1, by grind⟩
    have sep : separated true (printGroups (group :: groups) ++ rest) =
        some (Numeral.hexadecimal group.toNat ++ (following groups ++ rest)) := by
      simp [printGroups_cons, separated]
    rw [readGroups_succ group (colon_following groups closes.colon) sep,
      readGroups_following (by simpa using fits) closes]

end Groups

theorem read_printGroups (ip : Ipv6) : read (printGroups ip.groups) = some (ip, []) := by
  have whole : readGroups 8 true (printGroups ip.groups ++ []) = ⟨ip.groups, false, []⟩ :=
    readGroups_printGroups (by rw [ip.length_groups]) .nil
  rw [List.append_nil] at whole
  simp [read, whole, ofGroups?, ip.length_groups]

theorem read_gap {head tail : List UInt16} {text : List Char} {closed : Bool} {ip : Ipv6}
    (read_tail : readGroups (7 - head.length) true text = ⟨tail, closed, []⟩)
    (short : head.length + tail.length < 8)
    (groups : ip.groups = head ++ List.replicate (8 - head.length - tail.length) 0 ++ tail) :
    read (printGroups head ++ ':' :: ':' :: text) = some (ip, []) := by
  have read_head : readGroups 8 true (printGroups head ++ ':' :: ':' :: text) = ⟨head, false, ':' :: ':' :: text⟩ :=
    readGroups_printGroups (by omega) (.gap text)
  -- A head of all eight groups would be the address, and the tail would not be read.
  have unfilled : ofGroups? head = none := dif_neg (by omega)
  have filled : ofGroups? (head ++ List.replicate (8 - head.length - tail.length) 0 ++ tail) = some ip := by
    rw [← groups]
    exact dif_pos ip.length_groups
  simp [read, read_head, unfilled, read_tail, filled, -List.append_assoc]

/-! The zeros that are left out. -/

theorem replicate_zeros (groups : List UInt16) : List.replicate (zeros groups) 0 <+: groups := by
  have same : groups.takeWhile (· == 0) = List.replicate (zeros groups) 0 := by
    refine List.eq_replicate_iff.mpr ⟨rfl, fun group member => ?_⟩
    simpa using List.mem_takeWhile_imp member
  rw [← same]
  exact List.takeWhile_prefix _

theorem replicate_longestFrom {whole groups : List UInt16} {place start length : Nat}
    (here : whole.drop place = groups) (zero : List.replicate length 0 <+: whole.drop start) :
    List.replicate (longestFrom place start length groups).2 0 <+:
      whole.drop (longestFrom place start length groups).1 := by
  induction groups generalizing place start length with
  | nil => exact zero
  | cons group groups ih =>
    have next : whole.drop (place + 1) = groups := by
      rw [← List.drop_drop, here, List.drop_one, List.tail_cons]
    rw [longestFrom]
    split
    · exact ih next (by rw [here]; exact replicate_zeros (group :: groups))
    · exact ih next zero

theorem split_longest (groups : List UInt16) :
    groups = groups.take (longest groups).1 ++ List.replicate (longest groups).2 0 ++
      groups.drop ((longest groups).1 + (longest groups).2) := by
  have none : List.replicate 0 0 <+: groups.drop 0 := List.nil_prefix
  obtain ⟨tail, run⟩ := replicate_longestFrom (groups.drop_zero) none
  have rest : groups.drop ((longest groups).1 + (longest groups).2) = tail := by
    rw [← List.drop_drop, longest, ← run, List.drop_left' (by simp)]
  rw [rest, List.append_assoc, longest, run, List.take_append_drop]

theorem pair_ofPair (high low : UInt16) : (Ipv4.ofPair high low).pair = (high, low) := by
  have join (group : UInt16) : (group / 256).toUInt8.toUInt16 * 256 + group.toUInt8.toUInt16 = group := by
    have small := group.toNat_lt
    apply UInt16.toNat_inj.mp
    simp
    omega
  exact Prod.ext (join high) (join low)

theorem groups_of_mapped? {ip : Ipv6} {inner : Ipv4} (mapped : ip.mapped? = some inner) :
    ip.groups = [0, 0, 0, 0, 0, 0xFFFF, inner.pair.1, inner.pair.2] := by
  unfold mapped? at mapped
  split at mapped
  · next high low groups =>
    obtain rfl := Option.some.inj mapped
    rw [groups, pair_ofPair]
  · contradiction

theorem readGroups_mapped (inner : Ipv4) :
    readGroups 7 true ('f' :: 'f' :: 'f' :: 'f' :: ':' :: inner.print) =
      ⟨[0xFFFF, inner.pair.1, inner.pair.2], true, []⟩ := by
  have number : Numeral.hexadecimal (0xFFFF : UInt16).toNat = ['f', 'f', 'f', 'f'] := by
    simp [Numeral.hexadecimal]
    decide
  have sep : separated true ('f' :: 'f' :: 'f' :: 'f' :: ':' :: inner.print) =
      some (Numeral.hexadecimal (0xFFFF : UInt16).toNat ++ ':' :: inner.print) := by
    rw [number]
    rfl
  have closing : Ipv4.read (inner.print ++ []) = some (inner, []) := inner.read_print .nil
  rw [List.append_nil] at closing
  have last : readGroups 6 false (':' :: inner.print) = ⟨[inner.pair.1, inner.pair.2], true, []⟩ := by
    simp [readGroups, separated, closing]
  rw [readGroups_succ 0xFFFF (.cons _) sep, last]

theorem parse?_print (ip : Ipv6) : parse? ip.print = some ip := by
  -- By the three written forms: mapped, with zeros left out, and all eight groups.
  suffices whole : read ip.print = some (ip, []) by simp [parse?, whole]
  unfold print
  cases mapped : ip.mapped? with
  | some inner =>
    refine @read_gap [] _ _ _ _ (readGroups_mapped inner) (by simp) ?_
    simpa using groups_of_mapped? mapped
  | none =>
    dsimp only
    split
    · next long =>
      have parts := split_longest ip.groups
      generalize ip.groups.take (longest ip.groups).1 = head,
        ip.groups.drop ((longest ip.groups).1 + (longest ip.groups).2) = tail at parts
      have total : head.length + (longest ip.groups).2 + tail.length = 8 := by
        have same := congrArg List.length parts
        rw [ip.length_groups] at same
        simpa [Nat.add_assoc] using same.symm
      have read_tail : readGroups (7 - head.length) true (printGroups tail ++ []) = ⟨tail, false, []⟩ :=
        readGroups_printGroups (by omega) .nil
      rw [List.append_nil] at read_tail
      refine read_gap read_tail (by omega) ?_
      rw [show 8 - head.length - tail.length = (longest ip.groups).2 by omega]
      exact parts
    · exact read_printGroups ip

theorem print_opening (ip : Ipv6) :
    ∃ run rest, ip.print = run ++ rest ∧ (∀ c ∈ run, (Numeral.hexValue c).isSome) ∧ Colon rest := by
  have opening {rest : List Char} (colon : Colon rest) (groups : List UInt16) :
      ∃ run more, printGroups groups ++ rest = run ++ more ∧ (∀ c ∈ run, (Numeral.hexValue c).isSome) ∧
        Colon more := by
    cases groups with
    | nil => exact ⟨[], rest, rfl, by simp, colon⟩
    | cons group groups =>
      exact ⟨_, following groups ++ rest, by rw [printGroups_cons, List.append_assoc],
        Numeral.digits_hexadecimal group.toNat, colon_following groups colon⟩
  unfold print
  cases ip.mapped? with
  | some inner => exact ⟨[], _, rfl, by simp, .cons _⟩
  | none =>
    dsimp only
    split
    · exact opening (.cons _) _
    · simpa using opening .nil ip.groups

end Ipv6

/-! Addresses of both kinds. -/

def IsLiteral (c : Char) : Prop :=
  (Numeral.hexValue c).isSome ∨ c = '.' ∨ c = ':'

theorem IsLiteral.ascii {c : Char} (literal : IsLiteral c) : c.toNat < 0x80 := by
  rcases literal with digit | rfl | rfl
  · exact Numeral.ascii_of_hexValue digit
  · decide
  · decide

theorem Ipv4.isLiteral_print (ip : Ipv4) : ∀ c ∈ ip.print, IsLiteral c := by
  have octet (n : Nat) : ∀ c ∈ Numeral.decimal n, IsLiteral c := fun c member =>
    .inl (Numeral.isSome_hexValue (Numeral.digits_decimal n c member))
  have dot : IsLiteral '.' := .inr (.inl rfl)
  simp only [print, List.mem_append, List.mem_cons, or_imp, forall_and, forall_eq]
  exact ⟨⟨⟨octet _, dot, octet _⟩, dot, octet _⟩, dot, octet _⟩

theorem Ipv6.isLiteral_printGroups (groups : List UInt16) : ∀ c ∈ printGroups groups, IsLiteral c := by
  have group_ (group : UInt16) : ∀ c ∈ Numeral.hexadecimal group.toNat, IsLiteral c := fun c member =>
    .inl (Numeral.digits_hexadecimal group.toNat c member)
  have colon : IsLiteral ':' := .inr (.inr rfl)
  cases groups with
  | nil => simp [printGroups]
  | cons group groups =>
    simp only [printGroups_cons, following, List.mem_append, List.mem_flatMap, List.mem_cons]
    rintro c (first | ⟨next, -, rfl | digit⟩)
    · exact group_ group c first
    · exact colon
    · exact group_ next c digit

theorem Ipv6.isLiteral_print (ip : Ipv6) : ∀ c ∈ ip.print, IsLiteral c := by
  have colon : IsLiteral ':' := .inr (.inr rfl)
  have digit : IsLiteral 'f' := .inl rfl
  unfold print
  cases ip.mapped? with
  | some inner =>
    simp only [List.mem_append, List.mem_cons, List.not_mem_nil, or_false, or_imp, forall_and, forall_eq]
    exact ⟨⟨colon, colon, digit, digit, digit, digit, colon⟩, inner.isLiteral_print⟩
  | none =>
    dsimp only
    split
    · simp only [List.mem_append, List.mem_cons, or_imp, forall_and, forall_eq]
      exact ⟨isLiteral_printGroups _, colon, colon, isLiteral_printGroups _⟩
    · exact isLiteral_printGroups ip.groups

namespace Ip

theorem parse?_print (ip : Ip) : parse? ip.print = some ip := by
  cases ip with
  | v4 ip =>
    have whole := ip.read_print .nil
    rw [List.append_nil] at whole
    simp [parse?, print, whole]
  | v6 ip =>
    obtain ⟨run, rest, opening, digits, colon⟩ := ip.print_opening
    have other : Ipv4.read ip.print = none := by
      rw [opening]
      exact Ipv6.ipv4_read_eq_none digits colon
    simp [parse?, print, other, ip.parse?_print]

theorem ofText?_text (ip : Ip) : ofText? ip.text = some ip := by
  rw [ofText?, text, String.toList_ofList, parse?_print]

theorem isAscii_text (ip : Ip) : isAscii ip.text = true := by
  have ascii : ∀ c ∈ ip.print, c.toNat < 0x80 := by
    cases ip with
    | v4 ip => exact fun c member => (ip.isLiteral_print c member).ascii
    | v6 ip => exact fun c member => (ip.isLiteral_print c member).ascii
  simpa [isAscii, text] using ascii

end Ip

theorem Host.toBytes_ofIp (ip : Ip) : (ofIp ip).toBytes = .ok (Text.toBytes ip.text) :=
  if_pos ip.isAscii_text

theorem Engine.literal?_text (ip : Ip) : literal? (toBytes ip.text) = some ip := by
  rw [literal?, ofBytes?_toBytes ip.isAscii_text, Option.bind_some, ip.ofText?_text]

end HostLookup
