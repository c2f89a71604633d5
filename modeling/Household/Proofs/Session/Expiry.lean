import Household.Proofs.Json.Fields
import Household.Proofs.Json.Reading
import Household.Session.Token

/-!
# Which Tokens Have an Expiry

An issuer makes a token from the octets of a header, the octets of some claims and a signature. The
expiry that the issuer claimed is the one that is read, unless the reader stumbles over something
that has nothing to do with it: a header field of an unexpected kind, an audience, or a value that
it cannot take in.

## Main results

* `parts?_ofParts`: the parts of a token are found again.
* `headerOk_object_iff`: the headers that are understood.
* `claimedExpiry?_object`: the claims of which the expiry is read.
* `Issued.isValid_text_iff`: a token is usable exactly as long as its expiry is to come, if it is
  understood, and never otherwise.
-/

namespace Household

open Text

namespace Token

/-! ### The parts of a token -/

/-- A token with a header, claims and a signature. -/
def ofParts (header claims : List UInt8) (signature : List Char) : String :=
  String.ofList
    ((Base64Url.encode header ++ '.' :: Base64Url.encode claims) ++ '.' :: signature)

/-- A text is split at a point behind which there is no other one. -/
theorem splitLast?_append {after : List Char} (h : '.' ∉ after) (before : List Char) :
    splitLast? (before ++ '.' :: after) = some (before, after) := by
  have hall : ∀ c ∈ after.reverse, decide (c ≠ '.') = true := fun c hc =>
    decide_eq_true fun heq => h (heq ▸ List.mem_reverse.mp hc)
  rw [splitLast?, List.reverse_append, List.reverse_cons, List.append_assoc,
    List.takeWhile_append_of_pos hall, List.dropWhile_append_of_pos hall]
  simp

/-- The parts of a token are found again. -/
theorem parts?_ofParts (header claims : List UInt8) {signature : List Char}
    (h : '.' ∉ signature) :
    parts? (ofParts header claims signature).toList =
      some (Base64Url.encode header, Base64Url.encode claims) := by
  rw [parts?, ofParts, String.toList_ofList, splitLast?_append h, Option.bind_eq_bind,
    Option.bind_some]
  exact splitLast?_append (Base64Url.point_notMem_encode claims) _

/-- A part is decoded to the value that its octets spell. -/
theorem decodePart?_encode (octets : List UInt8) :
    decodePart? (Base64Url.encode octets) = Json.ofOctets? octets := by
  rw [decodePart?, Base64Url.decode?_encode, Option.bind_eq_bind, Option.bind_some]

/-! ### Headers that are understood -/

/-- The members have a field at most once, and then with null or with a value of some kind. -/
def MayHave (members : List (String × Json)) (name : String) (kind : Json → Prop) : Prop :=
  (members.filter (·.1 = name)).length ≤ 1 ∧ ∀ v, (name, v) ∈ members → v = .null ∨ kind v

/-- An optional field is a field that the members may have. -/
theorem hasOptional_eq_true_iff {α : Type} {f : Json → Option α} {kind : Json → Prop}
    (hf : ∀ v, (f v).isSome = true ↔ kind v) {members : List (String × Json)} {name : String} :
    hasOptional f members name = true ↔ MayHave members name kind := by
  have hsome : ∀ v, isOptional f (some v) = true ↔ v = .null ∨ kind v := fun v => by
    rw [← hf]
    cases v <;> simp [isOptional]
  cases hvalue : Json.field? members name with
  | none =>
    have hmany := Nat.not_le.mpr (Json.field?_eq_none_iff.mp hvalue)
    simp [hasOptional, hvalue, MayHave, hmany]
  | some value =>
    obtain ⟨hone, hvalues⟩ := Json.field?_eq_some_iff.mp hvalue
    rw [hasOptional, hvalue, MayHave]
    cases value with
    | none =>
      exact ⟨fun _ => ⟨hone, fun v hv => absurd ((hvalues v).mpr hv) (by simp)⟩, fun _ => rfl⟩
    | some v =>
      dsimp only
      rw [hsome]
      refine ⟨fun h => ⟨hone, fun w hw => ?_⟩, fun h => h.2 v ((hvalues v).mp rfl)⟩
      obtain rfl := Option.some.inj ((hvalues w).mpr hw)
      exact h

/-- The fields of a header beside its algorithm are of the kinds that are expected of them. -/
structure HeaderFits (members : List (String × Json)) : Prop where
  texts : ∀ name ∈ headerTexts, MayHave members name Json.IsText
  lists : ∀ name ∈ headerLists, MayHave members name Json.IsTexts
  key : MayHave members headerKey fun v => Key.isKey v = true
  others : ∀ m ∈ members, m.1 ∉ "alg" :: headerKey :: headerTexts ++ headerLists → m.2.IsText

/-- A header with a known algorithm is understood if its other fields are of the kinds that are
expected of them. -/
theorem headerOk_object_iff {members : List (String × Json)} {name : String}
    (halg : Json.field? members "alg" = some (some (.text name))) (hname : name ∈ algorithms) :
    headerOk (.object members) = true ↔ HeaderFits members := by
  have halgorithm : namesAlgorithm members = true := by
    simp [namesAlgorithm, halg, Json.choice?, Json.noPayload, hname]
  have hkey : ∀ v, (Key.read? v).isSome = true ↔ Key.isKey v = true := fun v => by
    rw [Key.read?]
    cases Key.isKey v <;> simp
  rw [headerOk, halgorithm, Bool.true_and, Bool.and_eq_true, Bool.and_eq_true, Bool.and_eq_true,
    List.all_eq_true, List.all_eq_true, List.all_eq_true]
  simp only [hasOptional_eq_true_iff fun v => Json.isSome_text?_iff (v := v),
    hasOptional_eq_true_iff fun v => Json.isSome_list?_text?_iff (v := v),
    hasOptional_eq_true_iff hkey, Bool.or_eq_true, Json.isSome_text?_iff, List.contains_iff_mem,
    or_iff_not_imp_left]
  exact ⟨fun ⟨⟨⟨htexts, hlists⟩, hkey⟩, hothers⟩ => ⟨htexts, hlists, hkey, hothers⟩,
    fun h => ⟨⟨⟨h.texts, h.lists⟩, h.key⟩, h.others⟩⟩

/-! ### Claims of which the expiry is read -/

/-- Nothing in the claims keeps their expiry from being read: no audience is named, and neither a
value in its place nor the issuer nor the beginning of validity brings the reader to a halt. -/
structure ClaimsFit (members : List (String × Json)) : Prop where
  audience : ∀ v, ("aud", v) ∈ members →
    ¬ v.IsText ∧ ¬ v.IsTexts ∧ v.isPassable greatestDepth = true
  issuer : ∀ v, ("iss", v) ∈ members → v.isPassable greatestDepth = true
  notBefore : ∀ v, ("nbf", v) ∈ members → v.isPassable greatestDepth = true ∧
    (∀ items, v = .array items → items = []) ∧ (∀ ms, v = .object ms → ms = [])

/-- Claims other than these three do not matter, whatever they are. -/
theorem claimsFit_of_forall_ne {members : List (String × Json)}
    (h : ∀ m ∈ members, m.1 ≠ "aud" ∧ m.1 ≠ "iss" ∧ m.1 ≠ "nbf") : ClaimsFit members where
  audience _ hv := absurd rfl (h _ hv).1
  issuer _ hv := absurd rfl (h _ hv).2.1
  notBefore _ hv := absurd rfl (h _ hv).2.2

/-- No audience is named where there is neither a text nor a list of texts. -/
theorem namesAudience_eq_false_iff {claim : Option Json} :
    namesAudience claim = false ↔ ∀ v, claim = some v → ¬ v.IsText ∧ ¬ v.IsTexts := by
  cases claim with
  | none => simp [namesAudience]
  | some v =>
    cases v with
    | array items =>
      simp only [Option.some.injEq, forall_eq', Json.isTexts_array_iff]
      simp [namesAudience, Json.isSome_text?_iff, Json.IsText]
    | _ => simp [namesAudience, Json.IsText, Json.IsTexts]

/-- A claim is taken in if it is not there or is passable. -/
theorem takesIn_iff {claim : Option Json} :
    takesIn claim = true ↔ ∀ v, claim = some v → v.isPassable greatestDepth = true := by
  cases claim <;> simp [takesIn]

/-- Empty lists and objects are taken in. -/
theorem isPassable_empty :
    Json.isPassable greatestDepth (.array []) = true ∧
      Json.isPassable greatestDepth (.object []) = true := by
  obtain ⟨levels, hlevels⟩ : ∃ levels, greatestDepth = levels + 1 := ⟨125, rfl⟩
  rw [hlevels]
  simp [Json.isPassable, Json.take, Json.takeItems, Json.takeMembers]

/-- A claim is passed over if it is taken in and is no list or object with something in it. -/
theorem passesOver_iff {claim : Option Json} :
    passesOver claim = true ↔ ∀ v, claim = some v → v.isPassable greatestDepth = true ∧
      (∀ items, v = .array items → items = []) ∧ (∀ ms, v = .object ms → ms = []) := by
  have hplain {v : Json} (hv : passesOver (some v) = takesIn (some v))
      (harray : ∀ items, v ≠ .array items) (hobject : ∀ ms, v ≠ .object ms) :
      passesOver (some v) = true ↔ v.isPassable greatestDepth = true ∧
        (∀ items, v = .array items → items = []) ∧ (∀ ms, v = .object ms → ms = []) := by
    rw [hv, takesIn, Option.map_some, Option.getD_some]
    exact (and_iff_left ⟨fun items h => absurd h (harray items),
      fun ms h => absurd h (hobject ms)⟩).symm
  cases claim with
  | none => simp [passesOver, takesIn]
  | some v =>
    simp only [Option.some.injEq, forall_eq']
    cases v with
    | array items =>
      rw [passesOver, List.isEmpty_iff]
      refine ⟨?_, fun h => h.2.1 items rfl⟩
      rintro rfl
      exact ⟨isPassable_empty.1, fun _ h => (Json.array.inj h).symm, by simp⟩
    | object members =>
      rw [passesOver, List.isEmpty_iff]
      refine ⟨?_, fun h => h.2.2 members rfl⟩
      rintro rfl
      exact ⟨isPassable_empty.2, by simp, fun _ h => (Json.object.inj h).symm⟩
    | _ => exact hplain rfl (by simp) (by simp)

/-- The claims fit if those of the three that are there do. -/
theorem claimsFit_iff {members : List (String × Json)} {aud iss nbf : Option Json}
    (haud : ∀ v, aud = some v ↔ ("aud", v) ∈ members)
    (hiss : ∀ v, iss = some v ↔ ("iss", v) ∈ members)
    (hnbf : ∀ v, nbf = some v ↔ ("nbf", v) ∈ members) :
    ClaimsFit members ↔ namesAudience aud = false ∧
      (takesIn aud && takesIn iss && passesOver nbf) = true := by
  rw [Bool.and_eq_true, Bool.and_eq_true, namesAudience_eq_false_iff, takesIn_iff, takesIn_iff,
    passesOver_iff]
  simp only [haud, hiss, hnbf]
  constructor
  · exact fun h => ⟨fun v hv => ⟨(h.audience v hv).1, (h.audience v hv).2.1⟩,
      ⟨fun v hv => (h.audience v hv).2.2, h.issuer⟩, h.notBefore⟩
  · rintro ⟨hnone, ⟨htaken, hissuer⟩, hbefore⟩
    exact ⟨fun v hv => ⟨(hnone v hv).1, (hnone v hv).2, htaken v hv⟩, hissuer, hbefore⟩

/-- Of claims with a subject and an expiry, each claim once, the expiry is read if nothing in them
keeps it from being read. -/
theorem claimedExpiry?_object {members : List (String × Json)}
    (hdistinct : (members.map Prod.fst).Nodup) {subject : String}
    (hsubject : ("sub", .text subject) ∈ members) {v : Json} (hexp : ("exp", v) ∈ members)
    {second : Int64} (hv : Json.word? v = some second) :
    (ClaimsFit members → claimedExpiry? (.object members) = some second) ∧
      (¬ ClaimsFit members → claimedExpiry? (.object members) = none) := by
  have hfield {name : String} {v : Json} (h : (name, v) ∈ members) :
      Json.field? members name = some (some v) := by
    obtain ⟨value, hvalue, hvalues⟩ := Json.exists_field?_eq_some hdistinct name
    rw [hvalue, (hvalues v).mpr h]
  obtain ⟨aud, haud, hauds⟩ := Json.exists_field?_eq_some hdistinct "aud"
  obtain ⟨iss, hiss, hissuers⟩ := Json.exists_field?_eq_some hdistinct "iss"
  obtain ⟨nbf, hnbf, hbefores⟩ := Json.exists_field?_eq_some hdistinct "nbf"
  have hclaimed : claimedExpiry? (.object members) =
      if namesAudience aud then none
      else if takesIn aud && takesIn iss && passesOver nbf then some second else none := by
    rw [claimedExpiry?]
    simp only [List.mapM_cons, List.mapM_nil, hfield hsubject, hfield hexp, haud, hiss, hnbf,
      Option.bind_eq_bind, Option.bind_some, Option.pure_def, Json.text?, hv]
  rw [claimsFit_iff hauds hissuers hbefores, hclaimed]
  constructor
  · rintro ⟨hnone, htaken⟩
    rw [hnone, htaken]
    rfl
  · intro h
    split
    · rfl
    · next hnone => exact if_neg fun htaken => h ⟨Bool.not_eq_true _ ▸ hnone, htaken⟩

/-! ### Tokens of an issuer -/

/-- A token as an issuer makes it: the octets of a header that names an algorithm, the octets of
claims with a subject and an expiry, each claim once, and a signature without points. -/
structure Issued where
  header : List UInt8
  fields : List (String × Json)
  header_eq : Json.ofOctets? header = some (.object fields)
  algorithm : String
  algorithm_mem : algorithm ∈ algorithms
  algorithm_eq : Json.field? fields "alg" = some (some (.text algorithm))
  payload : List UInt8
  claims : List (String × Json)
  payload_eq : Json.ofOctets? payload = some (.object claims)
  distinct : (claims.map Prod.fst).Nodup
  subject : String
  subject_mem : ("sub", .text subject) ∈ claims
  exp : Json
  exp_mem : ("exp", exp) ∈ claims
  second : Int64
  exp_eq : Json.word? exp = some second
  expires : Instant
  expires_eq : Instant.ofSecond? second.toInt = some expires
  signature : List Char
  signature_eq : '.' ∉ signature

namespace Issued

/-- The text of a token. -/
def text (k : Issued) : String :=
  ofParts k.header k.payload k.signature

/-- A token is understood if its header and its claims fit. -/
structure IsUnderstood (k : Issued) : Prop where
  header : HeaderFits k.fields
  claims : ClaimsFit k.claims

/-- The expiry of a token is read from its header and its claims. -/
theorem expiry?_text (k : Issued) :
    expiry? k.text =
      if headerOk (.object k.fields) then
        (claimedExpiry? (.object k.claims)).bind fun second => Instant.ofSecond? second.toInt
      else none := by
  rw [text, expiry?, parts?_ofParts _ _ k.signature_eq]
  simp only [Option.bind_eq_bind, Option.bind_some, decodePart?_encode, k.header_eq, k.payload_eq]

/-- The expiry that is read is the claimed one, if the token is understood. -/
theorem IsUnderstood.expiry?_eq {k : Issued} (h : k.IsUnderstood) :
    expiry? k.text = some k.expires := by
  have hheader := (headerOk_object_iff k.algorithm_eq k.algorithm_mem).mpr h.header
  have hclaims := (claimedExpiry?_object k.distinct k.subject_mem k.exp_mem k.exp_eq).1 h.claims
  rw [expiry?_text, if_pos hheader, hclaims, Option.bind_some, k.expires_eq]

/-- Of a token that is not understood no expiry is read. -/
theorem expiry?_eq_none {k : Issued} (h : ¬ k.IsUnderstood) : expiry? k.text = none := by
  rw [expiry?_text]
  split
  · next hheader =>
    have hclaims : ¬ ClaimsFit k.claims := fun hclaims =>
      h ⟨(headerOk_object_iff k.algorithm_eq k.algorithm_mem).mp hheader, hclaims⟩
    rw [(claimedExpiry?_object k.distinct k.subject_mem k.exp_mem k.exp_eq).2 hclaims,
      Option.bind_none]
  · rfl

/-- Of a token for an audience no expiry is read. -/
theorem expiry?_eq_none_of_audience {k : Issued} {v : Json} (hmem : ("aud", v) ∈ k.claims)
    (hv : v.IsText ∨ v.IsTexts) : expiry? k.text = none :=
  expiry?_eq_none fun h =>
    have haudience := h.claims.audience v hmem
    hv.elim haudience.1 haudience.2.1

/-- **A token is usable exactly as long as its expiry is still to come, if it is understood**: then
its expiry is the claimed one. A token that is not understood has no expiry and is not usable at any
time. -/
theorem isValid_text_iff (k : Issued) :
    (expiry? k.text = some k.expires ↔ k.IsUnderstood) ∧
      (expiry? k.text = none ↔ ¬ k.IsUnderstood) ∧
      ∀ now, isValid k.text now = true ↔ k.IsUnderstood ∧ now < k.expires := by
  by_cases h : k.IsUnderstood
  · have hexpiry := h.expiry?_eq
    simp [isValid_iff, hexpiry, h]
  · have hexpiry := expiry?_eq_none h
    simp [isValid_iff, hexpiry, h]

/-- A token of subject `1` that expires on 16 January 2024 at 10:13:20 and claims nothing else. -/
def plain : Issued where
  header := "\x7b\"alg\":\"HS256\"\x7d".toUTF8.data.toList
  fields := [("alg", .text "HS256")]
  header_eq := Json.ofOctets?_toUTF8 (by decide +kernel)
  algorithm := "HS256"
  algorithm_mem := by decide
  algorithm_eq := rfl
  payload := "\x7b\"sub\":\"1\",\"exp\":1705400000\x7d".toUTF8.data.toList
  claims := [("sub", .text "1"), ("exp", .word 1705400000)]
  payload_eq := Json.ofOctets?_toUTF8 (by decide +kernel)
  distinct := by decide
  subject := "1"
  subject_mem := by simp
  exp := .word 1705400000
  exp_mem := by simp
  second := 1705400000
  exp_eq := Json.word?_word 1705400000
  expires := (Instant.ofSecond? 1705400000).get (by decide)
  expires_eq := (Option.some_get _).symm
  signature := ['s']
  signature_eq := by decide

/-- This token is usable until it expires. -/
theorem isValid_text_iff_plain :
    expiry? plain.text = some plain.expires ∧
      ∀ now, isValid plain.text now = true ↔ now < plain.expires := by
  have hplain : plain.IsUnderstood :=
    { header := (headerOk_object_iff plain.algorithm_eq plain.algorithm_mem).mp rfl
      claims := claimsFit_of_forall_ne (by decide) }
  obtain ⟨hexpiry, -, hvalid⟩ := isValid_text_iff plain
  exact ⟨hexpiry.mpr hplain, fun now => by rw [hvalid, and_iff_right hplain]⟩

/-- The same token for the audience `household`. -/
def forHousehold : Issued :=
  { plain with
    payload :=
      "\x7b\"sub\":\"1\",\"exp\":1705400000,\"aud\":\"household\"\x7d".toUTF8.data.toList
    claims := [("sub", .text "1"), ("exp", .word 1705400000), ("aud", .text "household")]
    payload_eq := Json.ofOctets?_toUTF8 (by decide +kernel)
    distinct := by decide
    subject_mem := by simp [plain]
    exp_mem := by simp [plain] }

/-- A token for an audience has no expiry and is not usable, although it claims an expiry that is
still to come. -/
theorem exists_not_isValid_text :
    ∃ now < forHousehold.expires,
      expiry? forHousehold.text = none ∧ isValid forHousehold.text now = false := by
  have hexpiry : expiry? forHousehold.text = none :=
    expiry?_eq_none_of_audience (v := .text "household") (by simp [forHousehold]) (.inl ⟨_, rfl⟩)
  exact ⟨.epoch, by decide, hexpiry, by rw [isValid, hexpiry]⟩

end Issued

end Token

end Household
