import Foxtrot.Foundation.FiniteMap
import Foxtrot.Foundation.Hexadecimal

/-!
# Intel HEX

A line of an Intel HEX file is a colon and bytes of two hexadecimal digits each: the number of data
bytes, an address of two bytes, the type of the record, the data, and a byte that makes the sum of
all of them zero. `decode` reads a line, or says what is wrong with it.

A file of data records says which byte is at which address (`Record.Holds`). A map from the
addresses of records to their data holds what the records do in which nothing is replaced: a later
record at the same address takes the place of an earlier one (`lookup_store_eq_some_iff`).

The fields of a line that is decoded are determined by its text (`exists_fields_of_decode`): the
first two digits are the count, the next four the address, and so on, which is how a reader finds
them that cuts the text by position.
-/

namespace IntelHex

open Hexadecimal

/-! ### Lines -/

/-- The bytes of a text, of two hexadecimal digits each. -/
def pairs : List Char → Option (List ℕ)
  | [] => some []
  | [_] => none
  | c :: c' :: cs => (pairs cs).map (push (push 0 c) c' :: ·)

/-- A record. -/
structure Record where
  type : ℕ
  address : ℕ
  data : List ℕ
  deriving DecidableEq

/-- What is wrong with a line. -/
inductive Fault where
  | start
  | digits
  | truncated
  | trailing
  | checksum
  deriving DecidableEq

/-- A line without the carriage return at its end. -/
def withoutReturn (line : List Char) : List Char :=
  if line.getLast? = some '\r' then line.dropLast else line

/-- The record of these bytes. -/
def ofBytes : List ℕ → Except Fault Record
  | count :: high :: low :: type :: rest =>
    if rest.length < count + 1 then .error .truncated
    else if count + 1 < rest.length then .error .trailing
    else if (count :: high :: low :: type :: rest).sum % 256 ≠ 0 then .error .checksum
    else .ok ⟨type, 256 * high + low, rest.take count⟩
  | _ => .error .truncated

/-- The record of a line. -/
def decode (line : String) : Except Fault Record :=
  match withoutReturn line.toList with
  | ':' :: digits =>
    if digits.all isxdigit then
      match pairs digits with
      | none => .error .truncated
      | some bytes => ofBytes bytes
    else .error .digits
  | _ => .error .start

/-- A record of data. -/
def Record.IsData (r : Record) : Prop := r.type = 0

/-- The record that ends a file. -/
def endOfFile : Record := ⟨1, 0, []⟩

/-- The lines of a file with these records of data. -/
def File (lines : List String) (rs : List Record) : Prop :=
  (∀ r ∈ rs, r.IsData) ∧
    lines.map decode = (rs ++ [endOfFile]).map Except.ok

/-- A line is truncated, has a wrong checksum, or digits that are not hexadecimal. -/
def Malformed (lines : List String) : Prop :=
  ∃ line ∈ lines, decode line = .error .truncated ∨ decode line = .error .checksum ∨
    decode line = .error .digits

instance (lines : List String) : Decidable (Malformed lines) :=
  inferInstanceAs (Decidable (∃ line ∈ lines, decode line = .error .truncated ∨
    decode line = .error .checksum ∨ decode line = .error .digits))

/-- The fields of a line, which are a record. -/
structure Fields (line : String) (r : Record) (count address type data rest : List Char) :
    Prop where
  text : line.toList = ':' :: (count ++ (address ++ (type ++ (data ++ rest))))
  length_count : count.length = 2
  length_address : address.length = 4
  length_type : type.length = 2
  count : readNat count = some r.data.length
  address : readNat address = some r.address
  pairs : pairs data = some r.data
  digits : data.all isxdigit

/-- Each byte is read from two digits. -/
theorem exists_of_pairs_eq_cons {text : List Char} {b : ℕ} {bs : List ℕ}
    (h : pairs text = some (b :: bs)) :
    ∃ c c' cs, text = c :: c' :: cs ∧ push (push 0 c) c' = b ∧ pairs cs = some bs := by
  match text, h with
  | c :: c' :: cs, h =>
    obtain ⟨bs', hbs, heq⟩ := Option.map_eq_some_iff.mp h
    obtain ⟨rfl, rfl⟩ := List.cons.inj heq
    exact ⟨c, c', cs, rfl, rfl, hbs⟩

/-- The digits of the first bytes, and those of the rest. -/
theorem exists_of_pairs_eq_append {text : List Char} {bs bs' : List ℕ}
    (h : pairs text = some (bs ++ bs')) :
    ∃ xs ys, text = xs ++ ys ∧ pairs xs = some bs ∧ pairs ys = some bs' := by
  induction bs generalizing text with
  | nil => exact ⟨[], text, rfl, rfl, h⟩
  | cons b bs ih =>
    obtain ⟨c, c', cs, rfl, hb, hcs⟩ := exists_of_pairs_eq_cons h
    obtain ⟨xs, ys, rfl, hxs, hys⟩ := ih hcs
    refine ⟨c :: c' :: xs, ys, rfl, ?_, hys⟩
    rw [pairs, hxs, hb]
    rfl

/-- There are two digits for each byte. -/
theorem length_of_pairs {text : List Char} {bs : List ℕ} (h : pairs text = some bs) :
    text.length = 2 * bs.length := by
  induction bs generalizing text with
  | nil =>
    match text, h with
    | [], _ => rfl
    | c :: c' :: cs, h =>
      obtain ⟨bs', -, heq⟩ := Option.map_eq_some_iff.mp h
      cases heq
  | cons b bs ih =>
    obtain ⟨c, c', cs, rfl, -, hcs⟩ := exists_of_pairs_eq_cons h
    rw [List.length_cons, List.length_cons, ih hcs, List.length_cons]
    omega

/-- One byte is a number of two digits. -/
theorem readNat_of_pairs_singleton {text : List Char} {b : ℕ} (h : pairs text = some [b])
    (hdigits : text.all isxdigit) : readNat text = some b := by
  obtain ⟨c, c', cs, rfl, rfl, hcs⟩ := exists_of_pairs_eq_cons h
  obtain rfl := List.eq_nil_of_length_eq_zero (length_of_pairs hcs)
  exact if_pos ⟨List.cons_ne_nil _ _, hdigits⟩

/-- Two bytes are a number of four digits, the higher one first. -/
theorem readNat_of_pairs_pair {text : List Char} {b b' : ℕ} (h : pairs text = some [b, b'])
    (hdigits : text.all isxdigit) : readNat text = some (256 * b + b') := by
  obtain ⟨c₀, c₁, cs, rfl, rfl, hcs⟩ := exists_of_pairs_eq_cons h
  obtain ⟨c₂, c₃, cs', rfl, rfl, hcs'⟩ := exists_of_pairs_eq_cons hcs
  obtain rfl := List.eq_nil_of_length_eq_zero (length_of_pairs hcs')
  refine (if_pos ⟨List.cons_ne_nil _ _, hdigits⟩).trans (congrArg some ?_)
  simp only [List.foldl_cons, List.foldl_nil, push]
  omega

/-- Only the end of a line may be taken away. -/
theorem exists_eq_withoutReturn_append (line : List Char) :
    ∃ ending, line = withoutReturn line ++ ending := by
  rw [withoutReturn]
  split_ifs with h
  · exact ⟨['\r'], (List.dropLast_append_getLast? '\r' h).symm⟩
  · exact ⟨[], (List.append_nil line).symm⟩

/-- The bytes of a record. -/
theorem exists_of_ofBytes {bytes : List ℕ} {r : Record} (h : ofBytes bytes = .ok r) :
    ∃ high low checksum, bytes = [r.data.length] ++ ([high, low] ++ ([r.type] ++
      (r.data ++ [checksum]))) ∧ 256 * high + low = r.address := by
  match bytes, h with
  | count :: high :: low :: type :: rest, h =>
    rw [ofBytes] at h
    split_ifs at h with htruncated htrailing hchecksum
    obtain rfl := Except.ok.inj h
    have hdata : (rest.take count).length = count := by
      rw [List.length_take]
      omega
    have hdrop : (rest.drop count).length = 1 := by
      rw [List.length_drop]
      omega
    obtain ⟨checksum, hlast⟩ := List.length_eq_one_iff.mp hdrop
    refine ⟨high, low, checksum, ?_, rfl⟩
    rw [hdata, ← hlast, List.take_append_drop]
    rfl

/-- A line that is decoded has the fields of its record. -/
theorem exists_fields_of_decode {line : String} {r : Record} (h : decode line = .ok r) :
    ∃ count address type data rest, Fields line r count address type data rest := by
  obtain ⟨ending, hending⟩ := exists_eq_withoutReturn_append line.toList
  rw [decode] at h
  split at h
  case h_2 => cases h
  case h_1 digits hline =>
    split_ifs at h with hdigits
    cases hpairs : pairs digits with
    | none => rw [hpairs] at h; cases h
    | some bytes =>
      rw [hpairs] at h
      obtain ⟨high, low, checksum, rfl, haddress⟩ := exists_of_ofBytes h
      -- the bytes come of pairs of digits, which are cut where the bytes are
      obtain ⟨count, more, rfl, hcount, hmore⟩ := exists_of_pairs_eq_append hpairs
      obtain ⟨address, more, rfl, haddr, hmore⟩ := exists_of_pairs_eq_append hmore
      obtain ⟨type, more, rfl, htype, hmore⟩ := exists_of_pairs_eq_append hmore
      obtain ⟨data, more, rfl, hdata, hmore⟩ := exists_of_pairs_eq_append hmore
      simp only [List.all_append, Bool.and_eq_true] at hdigits
      obtain ⟨hcdigits, hadigits, -, hddigits, -⟩ := hdigits
      refine ⟨count, address, type, data, more ++ ending, ?_, length_of_pairs hcount,
        length_of_pairs haddr, length_of_pairs htype, readNat_of_pairs_singleton hcount hcdigits,
        haddress ▸ readNat_of_pairs_pair haddr hadigits, hdata, hddigits⟩
      rw [hending, hline]
      simp only [List.cons_append, List.append_assoc]

/-! ### Contents -/

/-- The record has this byte at this address. -/
def Record.Holds (r : Record) (a b : ℕ) : Prop := ∃ i, r.data[i]? = some b ∧ a = r.address + i

/-- Data under the address that it starts at. -/
abbrev Store := AList fun _ : ℕ => List ℕ

/-- The store has this byte at this address. -/
def Holds (m : Store) (a b : ℕ) : Prop :=
  ∃ address data, m.lookup address = some data ∧ ∃ i, data[i]? = some b ∧ a = address + i

/-- The data of records, each under its address. -/
def store (rs : List Record) : Store := rs.foldl (fun m r => m.insert r.address r.data) ∅

/-- The record is not replaced by a later one at its address. -/
def Stays (rs : List Record) (r : Record) : Prop :=
  ∃ before after, rs = before ++ r :: after ∧ ∀ q ∈ after, q.address ≠ r.address

/-- The next record is stored at its address. -/
theorem store_concat (rs : List Record) (r : Record) :
    store (rs ++ [r]) = (store rs).insert r.address r.data := by
  rw [store, List.foldl_append]
  rfl

/-- The last record stays, and so do the earlier ones at other addresses. -/
theorem stays_concat_iff {rs : List Record} {r r' : Record} :
    Stays (rs ++ [r]) r' ↔ r' = r ∨ (Stays rs r' ∧ r'.address ≠ r.address) := by
  constructor
  · rintro ⟨before, after, heq, hafter⟩
    obtain rfl | ⟨after, q, rfl⟩ := after.eq_nil_or_concat'
    · exact .inl (List.singleton_inj.mp (List.append_inj' heq rfl).2).symm
    · rw [← List.cons_append, ← List.append_assoc] at heq
      obtain ⟨rfl, hq⟩ := List.append_inj' heq rfl
      obtain rfl := List.singleton_inj.mp hq
      rw [List.forall_mem_append, List.forall_mem_singleton] at hafter
      exact .inr ⟨⟨before, after, rfl, hafter.1⟩, Ne.symm hafter.2⟩
  · rintro (rfl | ⟨⟨before, after, rfl, hafter⟩, hne⟩)
    · exact ⟨rs, [], rfl, nofun⟩
    · refine ⟨before, after ++ [r], by simp, ?_⟩
      rw [List.forall_mem_append, List.forall_mem_singleton]
      exact ⟨hafter, Ne.symm hne⟩

/-- The store has the data of the records that stay. -/
theorem lookup_store_eq_some_iff {rs : List Record} {a : ℕ} {data : List ℕ} :
    (store rs).lookup a = some data ↔ ∃ r, Stays rs r ∧ r.address = a ∧ r.data = data := by
  induction rs using List.reverseRecOn generalizing data with
  | nil =>
    refine iff_of_false (by simp [store]) ?_
    rintro ⟨r, ⟨before, after, heq, -⟩, -⟩
    simp at heq
  | append_singleton rs r ih =>
    rw [store_concat, AList.lookup_insert_ite]
    -- the last record replaces what is at its own address, and leaves the rest
    by_cases ha : a = r.address
    · rw [if_pos ha]
      constructor
      · exact fun h => ⟨r, stays_concat_iff.mpr (.inl rfl), ha.symm, Option.some.inj h⟩
      · rintro ⟨r', hstays, rfl, rfl⟩
        obtain rfl | ⟨-, hne⟩ := stays_concat_iff.mp hstays
        · rfl
        · exact absurd ha hne
    · rw [if_neg ha, ih]
      constructor
      · rintro ⟨r', hstays, rfl, rfl⟩
        exact ⟨r', stays_concat_iff.mpr (.inr ⟨hstays, ha⟩), rfl, rfl⟩
      · rintro ⟨r', hstays, rfl, rfl⟩
        obtain rfl | ⟨hstays, -⟩ := stays_concat_iff.mp hstays
        · exact absurd rfl ha
        · exact ⟨r', hstays, rfl, rfl⟩

/-- **The store holds the bytes of the records that stay.** -/
theorem holds_store_iff {rs : List Record} {a b : ℕ} :
    Holds (store rs) a b ↔ ∃ r, Stays rs r ∧ r.Holds a b := by
  constructor
  · rintro ⟨address, data, hlookup, hbyte⟩
    obtain ⟨r, hstays, rfl, rfl⟩ := lookup_store_eq_some_iff.mp hlookup
    exact ⟨r, hstays, hbyte⟩
  · rintro ⟨r, hstays, hbyte⟩
    exact ⟨r.address, r.data, lookup_store_eq_some_iff.mpr ⟨r, hstays, rfl, rfl⟩, hbyte⟩

/-- What stays is one of the records. -/
theorem mem_of_stays {rs : List Record} {r : Record} (h : Stays rs r) : r ∈ rs := by
  obtain ⟨before, after, rfl, -⟩ := h
  exact List.mem_append_right _ List.mem_cons_self

end IntelHex
