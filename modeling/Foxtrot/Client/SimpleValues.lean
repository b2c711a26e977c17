import Foxtrot.Server.InvokeCapability
import Foxtrot.Wire.Registry

/-!
# Simple values in the C++ client

The server sends a simple value in the widest field of its kind, and the C++ client
(`client/src/client.cpp`) returns it as a `double`, an `int`, a `bool` or a string.
`ft_variant_from_response` has a branch for each of the cases that carry one of these, and none for
the others.

`Content` is what a value says, whatever type or message carries it. The message of the server has
the content of the value (`content_of_returns`); what the client returns has it exactly for the
contents that an `ft_std_variant` can hold (`clientValue_iff`). Of an integer beyond 32 bits the
upper bits are dropped, and void, a timestamp or a handle becomes the `double` zero.
-/

namespace Foxtrot.Client

open Fallible

/-! ### The client -/

/-- `ft_std_variant`. A string is its bytes, as in the messages. -/
inductive FtStdVariant where
  | double (val : BitVec 64)
  | int (val : BitVec 32)
  | bool (val : Bool)
  | string (val : List UInt8)
  deriving DecidableEq

/-- `check_repl_err`. -/
def checkReplErr : Option Errstatus → Except Thrown Unit
  | none => .ok ()
  | some err =>
    match err.tp with
    | .ftDeviceError => .error (.deviceError err.msg)
    | .ftProtocolError => .error (.protocolError err.msg)
    | .outOfRange => .error (.outOfRange err.msg)
    | _ => .error (.exception err.msg)

/-- The switch of `ft_variant_from_response`. Without a branch `out` keeps its default. -/
def fromSimplevar : SimpleValue → FtStdVariant
  | .dblval v => .double v
  | .intval v => .int (v.setWidth 32)
  | .uintval v => .int (v.setWidth 32)
  | .boolval v => .bool v
  | .stringval v => .string v
  | .notSet | .tstampval | .handleval _ => .double 0

/-- `ft_variant_from_response`, on a `capability_response`. -/
def ftVariantFromResponse (repl : CapabilityResponse FtVariant) : Except Thrown FtStdVariant := do
  checkReplErr repl.err
  match repl.returnval with
  | some (.simplevar v) => return fromSimplevar v.value
  | _ => throw (.exception "can't deal with non simplevar responses in c++ client yet!")

/-! ### What a value says -/

/-- What a simple value says. An object that stays on the server says that it does. -/
inductive Content where
  | real (val : BitVec 64)
  | integer (val : ℤ)
  | bool (val : Bool)
  | string (val : List UInt8)
  | void
  | timestamp
  | remote
  deriving DecidableEq

/-- The content of a number of a type that the server knows. -/
def numberContent (r : Rttr) : (tp : ElemType) → tp.Raw → Option Content
  | .float, v => some (.real (r.widen v))
  | .double, v => some (.real v)
  | .char, v | .short, v | .int, v | .long, v => some (.integer v.toInt)
  | .uchar, v | .ushort, v | .uint, v | .ulong, v => some (.integer v.toNat)
  | .other _ _, _ => none

/-- The content of a simple value on the server. -/
def valueContent (r : Rttr) : (tp : RType) → tp.Val → Option Content
  | .void, _ => some .void
  | .bool, v => some (.bool v)
  | .arith tp, v => numberContent r tp v
  | .string, v => some (.string v)
  | .remote _, _ | .optional _, _ => some .remote
  | .union _ _ alts, v => valueContent r (alts v.1) v.2
  | _, _ => none

/-- The content of a message. -/
def messageContent : SimpleValue → Content
  | .notSet => .void
  | .dblval v => .real v
  | .intval v => .integer v.toInt
  | .uintval v => .integer v.toNat
  | .boolval v => .bool v
  | .stringval v => .string v
  | .tstampval => .timestamp
  | .handleval _ => .remote

/-- The content of what the client returns. -/
def FtStdVariant.content : FtStdVariant → Content
  | .double v => .real v
  | .int v => .integer v.toInt
  | .bool v => .bool v
  | .string v => .string v

/-- The contents that an `ft_std_variant` holds. -/
def Content.Fits : Content → Prop
  | .real _ | .bool _ | .string _ => True
  | .integer n => -2 ^ 31 ≤ n ∧ n < 2 ^ 31
  | .void | .timestamp | .remote => False

instance Content.Fits.decidable : ∀ c : Content, Decidable c.Fits
  | .real _ | .bool _ | .string _ => inferInstanceAs (Decidable True)
  | .integer _ => inferInstanceAs (Decidable (_ ∧ _))
  | .void | .timestamp | .remote => inferInstanceAs (Decidable False)

/-! ### The message of the server -/

variable {r : Rttr} {lg : Option Logging} {hm hm' : HandleManager}

/-- The widest field of its kind holds every number. -/
theorem messageContent_num {tp : ElemType} (known : tp ∈ ElemType.accepted) (v : tp.Raw) :
    numberContent r tp v = some (messageContent ((StdVariant.num tp known v).simpleValue r)) := by
  cases tp with
  | float | double => rfl
  | char | short | int | long =>
    rw [numberContent, StdVariant.simpleValue, messageContent,
      BitVec.toInt_signExtend_of_le (by decide)]
  | uchar | ushort | uint | ulong =>
    rw [numberContent, StdVariant.simpleValue, messageContent,
      BitVec.toNat_setWidth_of_le (by decide)]
  | other name sizeof => exact absurd known ElemType.other_notMem_accepted

/-- **The message of a simple value has its content.** -/
theorem content_of_returns {tp : RType} {v : tp.Val} {m : FtSimplevariant}
    (h : Returns (getVariantWireType r lg tp false v) hm (.simplevar m) hm') :
    valueContent r tp v = some (messageContent m.value) := by
  induction tp with
  | void =>
    obtain ⟨hm, -⟩ := returns_pure_iff.mp h
    obtain rfl := FtVariant.simplevar.inj hm
    rfl
  | bool | string =>
    obtain ⟨sv, hsv, heq⟩ := returns_map_iff.mp h
    obtain rfl := FtVariant.simplevar.inj heq
    obtain ⟨stdvariant, hstd, rfl⟩ := returns_map_iff.mp hsv
    obtain ⟨rfl, -⟩ := returns_pure_iff.mp hstd
    rfl
  | arith tp =>
    obtain ⟨sv, hsv, heq⟩ := returns_map_iff.mp h
    obtain rfl := FtVariant.simplevar.inj heq
    obtain ⟨stdvariant, hstd, rfl⟩ := returns_map_iff.mp hsv
    rw [rttrToStdVariantConverter] at hstd
    split_ifs at hstd with known
    · obtain ⟨rfl, -⟩ := returns_pure_iff.mp hstd
      exact messageContent_num known v
    · exact absurd hstd not_returns_throw
  | remote tp | optional tp =>
    obtain ⟨key, -, heq⟩ := returns_map_iff.mp h
    obtain rfl := FtVariant.simplevar.inj heq
    rfl
  -- a union sends the value of its alternative
  | union name n alts ih => exact ih _ h
  | other name =>
    obtain ⟨sv, hsv, -⟩ := returns_map_iff.mp h
    obtain ⟨stdvariant, hstd, -⟩ := returns_map_iff.mp hsv
    exact absurd hstd not_returns_throw
  -- the other kinds do not send a simple value
  | enumeration e =>
    obtain ⟨enum, -, heq⟩ := returns_map_iff.mp h
    cases heq
  | tuple name n elems =>
    obtain ⟨elements, -, heq⟩ := returns_map_iff.mp h
    cases heq
  | container info elem =>
    obtain ⟨arr, -, heq⟩ := returns_map_iff.mp h
    cases heq
  | cls info props =>
    rw [getVariantWireType] at h
    split_ifs at h
    · obtain ⟨simplevars, -, heq⟩ := returns_map_iff.mp h
      cases heq
    · exact absurd h not_returns_throw

/-! ### What the client makes of it -/

/-- The lower half of a 64-bit number, read as an `int`. -/
theorem toInt_setWidth_eq_iff {v : BitVec 64} {n : ℤ} (hn : n = v.toInt ∨ n = v.toNat) :
    (v.setWidth 32).toInt = n ↔ -2 ^ 31 ≤ n ∧ n < 2 ^ 31 := by
  have hlow : (v.setWidth 32).toInt = Int.bmod v.toNat (2 ^ 32) := BitVec.toInt_setWidth v
  have hint : v.toInt = Int.bmod v.toNat (2 ^ 64) := BitVec.toInt_eq_toNat_bmod v
  have hlt := v.isLt
  rw [hlow]
  rw [hint] at hn
  rw [Int.bmod_def] at hn ⊢
  omega

/-- **The client returns what the message says exactly if it fits.** -/
theorem content_fromSimplevar_iff (sv : SimpleValue) :
    (fromSimplevar sv).content = messageContent sv ↔ (messageContent sv).Fits := by
  cases sv with
  | dblval v | boolval v | stringval v => exact iff_of_true rfl trivial
  | intval v =>
    rw [fromSimplevar, FtStdVariant.content, messageContent, Content.integer.injEq]
    exact toInt_setWidth_eq_iff (.inl rfl)
  | uintval v =>
    rw [fromSimplevar, FtStdVariant.content, messageContent, Content.integer.injEq]
    exact toInt_setWidth_eq_iff (.inr rfl)
  | notSet | tstampval | handleval key => exact iff_of_false (fun h => nomatch h) id

/-- The messages that the simple values of a content are sent as: those that
`get_variant_wire_type` makes of them, and the one of a timestamp, which no type of the C++ server
is sent as. -/
inductive SentAs (r : Rttr) (lg : Option Logging) : Content → FtSimplevariant → Prop
  | value {tp : RType} {v : tp.Val} {c : Content} {m : FtSimplevariant} {hm hm' : HandleManager}
      (hc : valueContent r tp v = some c)
      (h : Returns (getVariantWireType r lg tp false v) hm (.simplevar m) hm') : SentAs r lg c m
  | timestamp : SentAs r lg .timestamp { value := .tstampval }

private theorem SentAs.messageContent_eq {c : Content} {m : FtSimplevariant} (h : SentAs r lg c m) :
    messageContent m.value = c := by
  cases h with
  | value hc h => exact Option.some.inj ((content_of_returns h).symm.trans hc)
  | timestamp => rfl

/-- The reply with a simple value. -/
def simpleReply (msgid devid : UInt32) (capname : String) (m : FtSimplevariant) :
    CapabilityResponse FtVariant :=
  ⟨msgid, devid, capname, some (.simplevar m), none⟩

/-- **The client returns the value that was sent, or throws, exactly if** it is a floating-point
number, a `bool` or a string, or an integer that an `int` holds. -/
theorem clientValue_iff {c : Content} {m : FtSimplevariant} (h : SentAs r lg c m)
    (msgid devid : UInt32) (capname : String) :
    (∀ out, ftVariantFromResponse (simpleReply msgid devid capname m) = .ok out →
      out.content = c) ↔ c.Fits := by
  have hreply : ftVariantFromResponse (simpleReply msgid devid capname m) =
      .ok (fromSimplevar m.value) := rfl
  rw [hreply, ← h.messageContent_eq]
  constructor
  · exact fun hall => (content_fromSimplevar_iff m.value).mp (hall _ rfl)
  · rintro hfits out hout
    obtain rfl := Except.ok.inj hout
    exact (content_fromSimplevar_iff m.value).mpr hfits

/-- An `unsigned short` at its largest. -/
theorem clientValue_iff_largest : (∀ out, ftVariantFromResponse (simpleReply 1 0 "counts"
      { value := .uintval 65535, size := 2 }) = .ok out → out.content = .integer 65535) ↔
    (Content.integer 65535).Fits := by
  have h : Returns (getVariantWireType Rttr.standard none (.arith .ushort) false
      (65535 : BitVec 16)) ⟨∅, id⟩ (.simplevar { value := .uintval 65535, size := 2 }) ⟨∅, id⟩ :=
  rfl
  exact clientValue_iff (.value (by decide) h) 1 0 "counts"

/-- **The client drops the upper half of a number**: a `long` of 2^32 comes back as zero. -/
theorem not_clientValue : ¬ ∀ (r : Rttr) (lg : Option Logging) (c : Content) (m : FtSimplevariant),
    SentAs r lg c m → ∀ out,
      ftVariantFromResponse (simpleReply 1 0 "counts" m) = .ok out → out.content = c := by
  intro hall
  have h : Returns (getVariantWireType Rttr.standard none (.arith .long) false
      (2 ^ 32 : BitVec 64)) ⟨∅, id⟩ (.simplevar { value := .intval (2 ^ 32), size := 8 }) ⟨∅, id⟩ :=
    rfl
  have hcontent : valueContent Rttr.standard (.arith .long) (2 ^ 32 : BitVec 64) =
      some (.integer (2 ^ 32)) := by decide
  exact absurd (hall _ _ _ _ (.value hcontent h) _ rfl) (by decide)

end Foxtrot.Client
