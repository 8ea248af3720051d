import PalBeacon.Cloud.AccessAuth
import PalBeacon.Lib.Quoted

namespace PalBeacon.Cloud
open PalBeacon.Lib
set_option autoImplicit true

def maxChallengeBytes : Nat := 8 * 1024

section Parameters

def isNameByte (byte : UInt8) : Bool := isAsciiAlphanumeric byte || byte = 95 || byte = 45

/-- What `split_quoted` makes of a part. -/
def takePart (part : List Char) : Except AccessAuthError String := do
  let part := trim (.ofList part)
  ensure (!part.isEmpty) .invalidMetadata
  return part

def splitQuoted (value : String) : Except AccessAuthError (List String) :=
  splitOutside ',' takePart .invalidMetadata .outside [] value.toList

/-- The loop of `decode_quoted` over the characters that are left. -/
def decodeQuotedFrom (escaped : Bool) : List Char → Except AccessAuthError (List Char)
  | [] => if escaped then .error .invalidMetadata else .ok []
  | c :: cs =>
    if escaped then (fun output => c :: output) <$> decodeQuotedFrom false cs
    else if c = '\\' then decodeQuotedFrom true cs
    else if c = '"' ∨ isControl c then .error .invalidMetadata
    else (fun output => c :: output) <$> decodeQuotedFrom false cs

def decodeQuoted (value : List Char) : Except AccessAuthError String :=
  String.ofList <$> decodeQuotedFrom false value

/-- What `parse_parameters` makes of a part. -/
def parseParameter (part : String) : Except AccessAuthError (String × String) := do
  let (name, value) ← okOr (splitOnce '=' part.toList) .invalidMetadata
  let name := trim (.ofList name)
  let value := trim (.ofList value)
  ensure (!name.isEmpty && (utf8 name).all isNameByte && 2 ≤ (utf8 value).length &&
    value.toList.head? = some '"' && value.toList.getLast? = some '"') .invalidMetadata
  let decoded ← decodeQuoted value.toList.tail.dropLast
  return (name, decoded)

def insertParameter (result : List (String × String)) (parameter : String × String) :
    Except AccessAuthError (List (String × String)) := do
  ensure (!result.any fun existing => eqIgnoreAsciiCase existing.1 parameter.1) .invalidMetadata
  return result ++ [parameter]

def parseParameters (value : String) : Except AccessAuthError (List (String × String)) := do
  let parts ← splitQuoted value
  parts.foldlM (fun result part => do
    let parameter ← parseParameter part
    insertParameter result parameter) []

end Parameters

section Challenge
variable {Url : Type} [DecidableEq Url]

def containsUnquotedChallenge (value : String) : Bool :=
  !(value.toList.foldl Scan.next .outside).quoted && ", Bearer ".toList <:+: value.toList

structure ManagedOAuthPolicy (Url : Type) where
  protectedResourceMetadataUrl : Url

structure DiscoveryChallenge (Url : Type) where
  protectedResourceMetadataUrl : Url
deriving DecidableEq, Repr

/-- `toStr` reads a header value as text, and `parseUrl` a text as an URL. -/
def DiscoveryChallenge.parse (toStr : List UInt8 → Option String) (parseUrl : String → Option Url)
    (status : Nat) (headers : List (List UInt8)) (policy : ManagedOAuthPolicy Url) :
    Except AccessAuthError (DiscoveryChallenge Url) := do
  ensure (status = 401) .invalidMetadata
  let values ← headers.mapM fun value => okOr (toStr value) .invalidMetadata
  let [value] := values | .error .invalidMetadata
  ensure ((utf8 value).length ≤ maxChallengeBytes) .invalidMetadata
  let parameters ← okOr ((trim value).toList.dropPrefix? "Bearer ".toList) .invalidMetadata
  let parameters := String.ofList parameters
  ensure (!(parameters.isEmpty || containsUnquotedChallenge parameters)) .invalidMetadata
  let parameters ← parseParameters parameters
  let metadata := (parameters.filter fun p => eqIgnoreAsciiCase p.1 "resource_metadata").map (·.2)
  let [url] := metadata | .error .invalidMetadata
  let url ← okOr (parseUrl url) .invalidMetadata
  ensure (url = policy.protectedResourceMetadataUrl) .invalidMetadata
  return ⟨url⟩

end Challenge

section Grammar

def isNameCharacter (c : Char) : Bool := c.isAlphanum || c = '_' || c = '-'

def ValidName (name : String) : Prop := name ≠ "" ∧ ∀ c ∈ name.toList, isNameCharacter c = true

def Apart (p q : String × String) : Prop := eqIgnoreAsciiCase p.1 q.1 = false

/-- A name and a quoted string with an equals sign between them and white space around them. -/
def Item (text : List Char) (p : String × String) : Prop :=
  ValidName p.1 ∧ ∃ w₁ w₂ w₃ w₄ body, Blank w₁ ∧ Blank w₂ ∧ Blank w₃ ∧ Blank w₄ ∧
    Spells (fun _ => True) body p.2.toList ∧
    text = w₁ ++ (p.1.toList ++ w₂ ++ '=' :: (w₃ ++ ('"' :: body ++ ['"']))) ++ w₄

def ParameterList (text : List Char) (parameters : List (String × String)) : Prop :=
  parameters ≠ [] ∧ parameters.Pairwise Apart ∧
    ∃ items, List.Forall₂ Item items parameters ∧ text = [','].intercalate items

def renderParameter (p : String × String) : List Char :=
  p.1.toList ++ '=' :: ('"' :: escape p.2.toList ++ ['"'])

def render (parameters : List (String × String)) : String :=
  .ofList ([','].intercalate (parameters.map renderParameter))

end Grammar

section Items
variable {name : String} {p : String × String}

theorem not_isNameCharacter (h : 128 ≤ c.toNat) : isNameCharacter c = false := by
  have hval : 128 ≤ c.val := UInt32.le_iff_toNat_le.2 h
  have hne : ∀ d : Char, d.toNat < 128 → c ≠ d := by
    rintro d hd rfl
    exact absurd h (Nat.not_le.2 hd)
  rw [isNameCharacter, Char.isAlphanum, Char.isAlpha, Char.isUpper, Char.isLower, Char.isDigit]
  simp [hne '_' (by decide), hne '-' (by decide)]
  grind

set_option maxRecDepth 4000 in
theorem isNameByte_eq (name : String) :
    (utf8 name).all isNameByte = name.toList.all isNameCharacter := by
  apply all_utf8_eq
  · decide
  · intro byte hbyte
    have hall : ∀ n < 256, 128 ≤ UInt8.ofNat n → isNameByte (UInt8.ofNat n) = false := by decide
    have h := hall byte.toNat byte.toNat_lt
    rw [UInt8.ofNat_toNat] at h
    exact h hbyte
  · exact fun c => not_isNameCharacter

theorem name_character (h : isNameCharacter c = true) :
    isWhitespace c = false ∧ c ≠ ',' ∧ c ≠ '"' ∧ c ≠ '=' := by
  have hall : ∀ n < 128, isNameCharacter (Char.ofNat n) = true →
      isWhitespace (Char.ofNat n) = false ∧ Char.ofNat n ≠ ',' ∧ Char.ofNat n ≠ '"' ∧
        Char.ofNat n ≠ '=' := by
    decide
  have hc : c.toNat < 128 := by
    by_contra hge
    rw [not_isNameCharacter (Nat.le_of_not_lt hge)] at h
    cases h
  have hchar := hall c.toNat hc
  rw [Char.ofNat_toNat] at hchar
  exact hchar h

theorem decodeQuotedFrom_sound (h : decodeQuotedFrom escaped body = .ok value) :
    (escaped = false → Spells (fun _ => True) body value) ∧
      (escaped = true → Spells (fun _ => True) ('\\' :: body) value) := by
  induction body generalizing escaped value with
  | nil =>
    cases escaped with
    | false =>
      cases h
      exact ⟨fun _ => .nil, fun h => nomatch h⟩
    | true => cases h
  | cons c cs ih =>
    rw [decodeQuotedFrom] at h
    cases escaped with
    | true =>
      obtain ⟨output, houtput, rfl⟩ := map_eq_ok.1 h
      exact ⟨fun h => (nomatch h), fun _ => .escaped trivial ((ih houtput).1 rfl)⟩
    | false =>
      refine ⟨fun _ => ?_, fun h => nomatch h⟩
      rw [if_neg Bool.false_ne_true] at h
      split at h
      · next hc =>
        rw [hc]
        exact (ih h).2 rfl
      · next hbackslash =>
        split at h
        · cases h
        · next hplain =>
          rw [not_or] at hplain
          obtain ⟨output, houtput, rfl⟩ := map_eq_ok.1 h
          exact .plain hplain.1 hbackslash (Bool.eq_false_iff.2 hplain.2) ((ih houtput).1 rfl)

theorem decodeQuotedFrom_complete (h : Spells (fun _ => True) body value) :
    decodeQuotedFrom false body = .ok value := by
  induction h with
  | nil => rfl
  | escaped hc hbody ih =>
    rw [decodeQuotedFrom, if_neg Bool.false_ne_true, if_pos rfl, decodeQuotedFrom, if_pos rfl, ih]
    rfl
  | plain hquote hbackslash hcontrol hbody ih =>
    rw [decodeQuotedFrom, if_neg Bool.false_ne_true, if_neg hbackslash, if_neg, ih]
    · rfl
    · exact fun h => h.elim hquote (Bool.eq_false_iff.1 hcontrol)

theorem takePart_eq_ok : takePart raw = .ok part ↔ trim (.ofList raw) = part ∧ part ≠ "" := by
  rw [takePart, check_bind_eq_ok, ensure_eq_ok, Bool.not_eq_true', ← Bool.not_eq_true,
    String.isEmpty_iff]
  constructor
  · rintro ⟨hne, hpart⟩
    cases hpart
    exact ⟨rfl, hne⟩
  · rintro ⟨rfl, hne⟩
    exact ⟨hne, rfl⟩

theorem quoted_of_ends {value : String} (hlength : 2 ≤ (utf8 value).length)
    (hhead : value.toList.head? = some '"') (hlast : value.toList.getLast? = some '"') :
    value.toList = '"' :: value.toList.tail.dropLast ++ ['"'] := by
  rw [← String.ofList_toList (s := value)] at hlength
  cases hvalue : value.toList with
  | nil =>
    rw [hvalue] at hhead
    cases hhead
  | cons c cs =>
    rw [hvalue] at hhead hlast hlength
    cases hhead
    have hne : cs ≠ [] := by
      rintro rfl
      exact absurd hlength (by decide)
    rw [List.getLast?_cons_of_ne_nil hne] at hlast
    rw [List.tail_cons, List.cons_append, List.dropLast_append_getLast? _ hlast]

theorem item_of_parseParameter (htake : takePart raw = .ok part) (h : parseParameter part = .ok p) :
    Item raw p := by
  obtain ⟨rfl, -⟩ := takePart_eq_ok.1 htake
  rw [parseParameter] at h
  obtain ⟨⟨name, value⟩, hsplit, h⟩ := bind_eq_ok.1 h
  rw [okOr_eq_ok] at hsplit
  dsimp only at h
  rw [check_bind_eq_ok, ensure_eq_ok] at h
  obtain ⟨hcheck, h⟩ := h
  obtain ⟨decoded, hdecoded, hp⟩ := bind_eq_ok.1 h
  cases hp
  simp only [Bool.and_eq_true, decide_eq_true_eq] at hcheck
  obtain ⟨⟨⟨⟨hname, hbytes⟩, hlength⟩, hhead⟩, hlast⟩ := hcheck
  rw [isNameByte_eq, List.all_eq_true] at hbytes
  rw [Bool.not_eq_true', ← Bool.not_eq_true, String.isEmpty_iff] at hname
  obtain ⟨value', hvalue', rfl⟩ := map_eq_ok.1 hdecoded
  have hspells := (decodeQuotedFrom_sound hvalue').1 rfl
  obtain ⟨before, after, hbefore, hafter, hraw⟩ := trim_surrounded (.ofList raw)
  obtain ⟨w₁, w₂, hw₁, hw₂, hn⟩ := trim_surrounded (.ofList name)
  obtain ⟨w₃, w₄, hw₃, hw₄, hv⟩ := trim_surrounded (.ofList value)
  rw [String.toList_ofList] at hraw hn hv
  rw [splitOnce_sound hsplit, hn, hv, quoted_of_ends hlength hhead hlast] at hraw
  refine ⟨⟨hname, hbytes⟩, before ++ w₁, w₂, w₃, w₄ ++ after,
    (trim (.ofList value)).toList.tail.dropLast, ?_, hw₂, hw₃, ?_, ?_, ?_⟩
  · exact fun c hc => (List.mem_append.1 hc).elim (hbefore c) (hw₁ c)
  · exact fun c hc => (List.mem_append.1 hc).elim (hw₄ c) (hafter c)
  · rw [String.toList_ofList]
    exact hspells
  · rw [hraw]
    simp only [List.append_assoc, List.cons_append]

theorem tight_name (h : ValidName name) : Tight name.toList := by
  refine ⟨fun c hc => (name_character (h.2 c (List.mem_of_mem_head? hc))).1, ?_⟩
  exact fun c hc => (name_character (h.2 c (List.mem_of_mem_getLast? hc))).1

theorem tight_quoted (body : List Char) : Tight ('"' :: body ++ ['"']) := by
  constructor
  · intro c hc
    cases hc
    rfl
  · intro c hc
    rw [List.getLast?_concat] at hc
    cases hc
    rfl

theorem Item.parsed (h : Item raw p) : ∃ part, takePart raw = .ok part ∧
    parseParameter part = .ok p := by
  obtain ⟨hname, w₁, w₂, w₃, w₄, body, hw₁, hw₂, hw₃, hw₄, hspells, rfl⟩ := h
  have htight : Tight (p.1.toList ++ w₂ ++ '=' :: (w₃ ++ ('"' :: body ++ ['"']))) := by
    have hne : p.1.toList ≠ [] := fun hnil => hname.1 (String.toList_eq_nil_iff.1 hnil)
    constructor
    · rw [List.append_assoc, List.head?_append_of_ne_nil _ hne]
      exact (tight_name hname).1
    · have hlast : p.1.toList ++ w₂ ++ '=' :: (w₃ ++ ('"' :: body ++ ['"'])) =
          (p.1.toList ++ w₂ ++ '=' :: (w₃ ++ '"' :: body)) ++ ['"'] := by simp
      intro c hc
      rw [hlast, List.getLast?_concat] at hc
      cases hc
      rfl
  refine ⟨_, takePart_eq_ok.2 ⟨trim_between hw₁ hw₄ htight, ?_⟩, ?_⟩
  · intro hempty
    have hnil := congrArg String.toList hempty
    rw [String.toList_ofList] at hnil
    simp at hnil
  · have hequals : '=' ∉ p.1.toList ++ w₂ := by
      intro hmem
      obtain hmem | hmem := List.mem_append.1 hmem
      · exact (name_character (hname.2 _ hmem)).2.2.2 rfl
      · exact absurd (hw₂ _ hmem) (by decide)
    have hnil : Blank [] := fun _ hc => nomatch hc
    have htrimName : trim (.ofList (p.1.toList ++ w₂)) = p.1 := by
      have htrim := trim_between hnil hw₂ (tight_name hname)
      rwa [List.nil_append, String.ofList_toList] at htrim
    have htrimValue : trim (.ofList (w₃ ++ ('"' :: body ++ ['"']))) = .ofList
      ('"' :: body ++ ['"']) := by
      have htrim := trim_between hw₃ hnil (tight_quoted body)
      rwa [List.append_nil] at htrim
    have hends : 2 ≤ (utf8 (.ofList ('"' :: body ++ ['"']))).length := by
      rw [List.cons_append, utf8_cons, List.length_append, String.ofList_append, utf8_append,
        List.length_append]
      have hquote : (String.utf8EncodeChar '"').length = 1 ∧ (utf8 (.ofList ['"'])).length = 1 := by
        decide
      omega
    refine bind_eq_ok.2 ⟨(p.1.toList ++ w₂, w₃ ++ ('"' :: body ++ ['"'])), okOr_eq_ok.2 ?_, ?_⟩
    · rw [String.toList_ofList]
      exact splitOnce_complete hequals _
    · dsimp only
      rw [htrimName, htrimValue, check_bind_eq_ok, String.toList_ofList, isNameByte_eq]
      refine ⟨?_, bind_eq_ok.2 ⟨p.2, ?_, rfl⟩⟩
      · rw [ensure_eq_ok, List.all_eq_true.2 hname.2, List.getLast?_concat, decide_eq_true hends]
        simp [hname.1]
      · have hbody : ('"' :: body ++ ['"']).tail.dropLast = body := by simp
        rw [hbody, decodeQuoted, decodeQuotedFrom_complete hspells]
        exact congrArg Except.ok (String.ofList_toList (s := p.2))

theorem Item.passes (h : Item raw p) : Passes ',' .outside raw .outside := by
  obtain ⟨hname, w₁, w₂, w₃, w₄, body, hw₁, hw₂, hw₃, hw₄, hspells, rfl⟩ := h
  have hblank : ∀ {w : List Char}, Blank w → Passes ',' .outside w .outside := by
    intro w hw
    apply passes_plain
    intro c hc
    have hwhite := hw c hc
    refine ⟨?_, ?_⟩
    all_goals
      rintro rfl
      exact absurd hwhite (by decide)
  have hletters : Passes ',' .outside p.1.toList .outside :=
    passes_plain fun c hc => ⟨(name_character (hname.2 c hc)).2.1,
      (name_character (hname.2 c hc)).2.2.1⟩
  have hequals : Passes ',' .outside ['='] .outside := by
    apply passes_plain
    intro c hc
    rw [List.mem_singleton.1 hc]
    decide
  have hquoted : Passes ',' .outside ('"' :: body ++ ['"']) .outside :=
    hspells.passes_quoted (by decide)
  have hall := (hblank hw₁).append (((hletters.append (hblank hw₂)).append
    (hequals.append ((hblank hw₃).append hquoted))).append (hblank hw₄))
  rwa [← List.append_assoc, List.singleton_append] at hall

end Items

section Lists
variable {s : String} {l acc : List (String × String)}

theorem insertParameter_eq_ok : insertParameter result p = .ok l ↔
    (∀ q ∈ result, Apart q p) ∧ result ++ [p] = l := by
  rw [insertParameter, check_bind_eq_ok, ensure_eq_ok, Bool.not_eq_true', List.any_eq_false]
  constructor
  · rintro ⟨hapart, hl⟩
    exact ⟨fun q hq => Bool.eq_false_iff.2 (hapart q hq), Except.ok.inj hl⟩
  · rintro ⟨hapart, rfl⟩
    exact ⟨fun q hq => Bool.eq_false_iff.1 (hapart q hq), rfl⟩

theorem foldlM_parameters : parts.foldlM (fun result part => do
      let parameter ← parseParameter part
      insertParameter result parameter) acc = .ok l ↔
    ∃ ps, List.Forall₂ (fun part p => parseParameter part = .ok p) parts ps ∧ l = acc ++ ps ∧
      ps.Pairwise Apart ∧ ∀ q ∈ acc, ∀ p ∈ ps, Apart q p := by
  induction parts generalizing acc with
  | nil =>
    constructor
    · intro h
      cases h
      exact ⟨[], .nil, (List.append_nil _).symm, .nil, fun _ _ _ hp => nomatch hp⟩
    · rintro ⟨ps, hps, rfl, -⟩
      cases hps
      rw [List.append_nil]
      rfl
  | cons part parts ih =>
    rw [List.foldlM_cons, bind_eq_ok]
    constructor
    · rintro ⟨acc', hacc', h⟩
      obtain ⟨p, hp, hinsert⟩ := bind_eq_ok.1 hacc'
      obtain ⟨hapart, rfl⟩ := insertParameter_eq_ok.1 hinsert
      obtain ⟨ps, hps, rfl, hpairwise, hcross⟩ := ih.1 h
      refine ⟨p :: ps, .cons hp hps, by simp, ?_, ?_⟩
      · exact List.pairwise_cons.2 ⟨hcross p (List.mem_append_right _ List.mem_cons_self),
          hpairwise⟩
      · intro q hq
        exact List.forall_mem_cons.2 ⟨hapart q hq, hcross q (List.mem_append_left _ hq)⟩
    · rintro ⟨ps, hps, rfl, hpairwise, hcross⟩
      cases hps with
      | @cons _ p _ ps hp hps =>
        obtain ⟨hfirst, hpairwise⟩ := List.pairwise_cons.1 hpairwise
        refine ⟨acc ++ [p], bind_eq_ok.2 ⟨p, hp, insertParameter_eq_ok.2 ⟨?_, rfl⟩⟩,
          ih.2 ⟨ps, hps, ?_, hpairwise, ?_⟩⟩
        · exact fun q hq => hcross q hq p List.mem_cons_self
        · simp
        · intro q hq r hr
          obtain hq | hq := List.mem_append.1 hq
          · exact hcross q hq r (List.mem_cons_of_mem _ hr)
          · obtain rfl := List.mem_singleton.1 hq
            exact hfirst r hr

theorem items_pass (h : List.Forall₂ Item raws l) :
    ∀ raw ∈ raws, Passes ',' .outside raw .outside := by
  induction h with
  | nil => exact fun _ hraw => nomatch hraw
  | cons hitem hitems ih => exact List.forall_mem_cons.2 ⟨hitem.passes, ih⟩

theorem parseParameters_iff : parseParameters s = .ok l ↔ ParameterList s.toList l := by
  rw [parseParameters, bind_eq_ok]
  constructor
  · rintro ⟨parts, hparts, h⟩
    obtain ⟨ps, hps, hl, hpairwise, -⟩ := foldlM_parameters.1 h
    rw [List.nil_append] at hl
    subst hl
    obtain ⟨raws, hraws, hne, htaken⟩ := splitOutside_sound hparts
    rw [List.nil_append] at hraws
    have hitems : List.Forall₂ Item raws l := by
      clear hparts h hpairwise hraws hne
      induction htaken generalizing l with
      | nil =>
        cases hps
        exact .nil
      | cons htake htaken ih =>
        cases hps with
        | cons hp hps => exact .cons (item_of_parseParameter htake hp) (ih hps)
    refine ⟨?_, hpairwise, raws, hitems, hraws⟩
    rintro rfl
    cases hitems
    exact hne rfl
  · rintro ⟨hne, hpairwise, raws, hitems, hraws⟩
    have hparts : ∃ parts, List.Forall₂ (fun raw part => takePart raw = .ok part) raws parts ∧
        List.Forall₂ (fun part p => parseParameter part = .ok p) parts l := by
      clear hne hpairwise hraws
      induction hitems with
      | nil => exact ⟨[], .nil, .nil⟩
      | cons hitem hitems ih =>
        obtain ⟨part, htake, hparse⟩ := hitem.parsed
        obtain ⟨parts, htaken, hparsed⟩ := ih
        exact ⟨part :: parts, .cons htake htaken, .cons hparse hparsed⟩
    obtain ⟨parts, htaken, hparsed⟩ := hparts
    have hpasses : ∀ raw ∈ raws, Passes ',' .outside raw .outside := items_pass hitems
    have hraws' : raws ≠ [] := by
      rintro rfl
      cases hitems
      exact hne rfl
    refine ⟨parts, ?_, foldlM_parameters.2 ⟨l, hparsed, rfl, hpairwise, fun _ hq => nomatch hq⟩⟩
    rw [splitQuoted, hraws]
    exact splitOutside_complete hraws' hpasses htaken

theorem item_render (h : ValidName p.1) : Item (renderParameter p) p := by
  refine ⟨h, [], [], [], [], escape p.2.toList, ?_, ?_, ?_, ?_,
    spells_escape fun _ _ _ => trivial, ?_⟩
  · exact fun _ hc => nomatch hc
  · exact fun _ hc => nomatch hc
  · exact fun _ hc => nomatch hc
  · exact fun _ hc => nomatch hc
  · simp [renderParameter]

theorem parseParameters_render (hne : l ≠ []) (hnames : ∀ p ∈ l, ValidName p.1)
    (hapart : l.Pairwise Apart) :
    parseParameters (render l) = .ok l := by
  rw [parseParameters_iff]
  refine ⟨hne, hapart, l.map renderParameter, ?_, ?_⟩
  · rw [List.forall₂_map_left_iff, List.forall₂_same]
    exact fun p hp => item_render (hnames p hp)
  · rw [render, String.toList_ofList]

theorem items_core (h : List.Forall₂ Item raws l) (hne : raws ≠ []) :
    ∃ front after raws', [','].intercalate raws = front ++ '"' :: after ∧ Blank after ∧
      List.Forall₂ Item raws' l ∧ front ++ ['"'] = [','].intercalate raws' := by
  induction h with
  | nil => exact absurd rfl hne
  | @cons raw p raws l hitem hitems ih =>
    by_cases hnil : raws = []
    · subst hnil
      cases hitems
      obtain ⟨hname, w₁, w₂, w₃, w₄, body, hw₁, hw₂, hw₃, hw₄, hspells, rfl⟩ := hitem
      refine ⟨w₁ ++ (p.1.toList ++ w₂ ++ '=' :: (w₃ ++ '"' :: body)), w₄, [_], ?_, hw₄,
        .cons ⟨hname, w₁, w₂, w₃, [], body, hw₁, hw₂, hw₃, fun _ hc => (nomatch hc), hspells,
          rfl⟩ .nil, ?_⟩
      · simp
      · simp
    · obtain ⟨front, after, raws', hraws, hafter, hitems', hfront⟩ := ih hnil
      have hne' : raws' ≠ [] := by
        rintro rfl
        simp at hfront
      refine ⟨raw ++ ',' :: front, after, raw :: raws', ?_, hafter, .cons hitem hitems', ?_⟩
      · rw [List.intercalate_cons_of_ne_nil hnil, hraws]
        simp
      · rw [List.intercalate_cons_of_ne_nil hne', ← hfront]
        simp

theorem foldl_next_items (h : ∀ raw ∈ raws, Passes ',' .outside raw .outside) :
    ([','].intercalate raws).foldl Scan.next .outside = .outside := by
  induction raws with
  | nil => rfl
  | cons raw raws ih =>
    obtain ⟨hraw, hraws⟩ := List.forall_mem_cons.1 h
    by_cases hnil : raws = []
    · rw [hnil, List.intercalate_singleton]
      exact hraw.foldl_next
    · rw [List.intercalate_cons_of_ne_nil hnil, List.append_assoc, List.foldl_append,
        hraw.foldl_next,
        List.foldl_append]
      exact ih hraws

theorem ParameterList.core (h : ParameterList s.toList l) :
    ∃ front after, s.toList = front ++ '"' :: after ∧ Blank after ∧
      ParameterList (front ++ ['"']) l := by
  obtain ⟨hne, hapart, raws, hitems, hs⟩ := h
  have hraws : raws ≠ [] := by
    rintro rfl
    cases hitems
    exact hne rfl
  obtain ⟨front, after, raws', hcut, hafter, hitems', hfront⟩ := items_core hitems hraws
  exact ⟨front, after, hs.trans hcut, hafter, hne, hapart, raws', hitems', hfront⟩

theorem containsUnquotedChallenge_iff (h : ParameterList s.toList l) :
    containsUnquotedChallenge s = true ↔ ", Bearer ".toList <:+: s.toList := by
  obtain ⟨-, -, raws, hitems, hs⟩ := h
  have hquoted : (s.toList.foldl Scan.next .outside).quoted = false := by
    rw [hs, foldl_next_items (items_pass hitems)]
    rfl
  rw [containsUnquotedChallenge, hquoted, Bool.not_false, Bool.true_and, decide_eq_true_iff]

end Lists

section Theorem
variable {Url : Type}

def NamesMetadata (parseUrl : String → Option Url) (policy : ManagedOAuthPolicy Url)
    (parameters : List (String × String)) : Prop :=
  ∃ p ∈ parameters, eqIgnoreAsciiCase p.1 "resource_metadata" = true ∧
    parseUrl p.2 = some policy.protectedResourceMetadataUrl

theorem namesMetadata_iff {parseUrl : String → Option Url} {policy : ManagedOAuthPolicy Url}
    (h : l.Pairwise Apart) :
    NamesMetadata parseUrl policy l ↔
      ∃ value, (l.filter fun p => eqIgnoreAsciiCase p.1 "resource_metadata").map (·.2) = [value] ∧
        parseUrl value = some policy.protectedResourceMetadataUrl := by
  have hapart := h.filter fun p => eqIgnoreAsciiCase p.1 "resource_metadata"
  constructor
  · rintro ⟨p, hp, hname, hurl⟩
    have hmem : p ∈ l.filter fun p => eqIgnoreAsciiCase p.1 "resource_metadata" :=
      List.mem_filter.2 ⟨hp, hname⟩
    cases hfilter : l.filter fun p => eqIgnoreAsciiCase p.1 "resource_metadata" with
    | nil =>
      rw [hfilter] at hmem
      cases hmem
    | cons q qs =>
      cases qs with
      | nil =>
        rw [hfilter] at hmem
        obtain rfl := List.mem_singleton.1 hmem
        exact ⟨p.2, rfl, hurl⟩
      | cons r rs =>
        rw [hfilter] at hapart
        have hqr : Apart q r := (List.pairwise_cons.1 hapart).1 r List.mem_cons_self
        have hq : q ∈ l.filter fun p => eqIgnoreAsciiCase p.1 "resource_metadata" := by
          rw [hfilter]
          exact List.mem_cons_self
        have hr : r ∈ l.filter fun p => eqIgnoreAsciiCase p.1 "resource_metadata" := by
          rw [hfilter]
          exact List.mem_cons_of_mem _ List.mem_cons_self
        have hsame := (eqIgnoreAsciiCase_iff.1 (List.mem_filter.1 hq).2).trans
          (eqIgnoreAsciiCase_iff.1 (List.mem_filter.1 hr).2).symm
        exact absurd (eqIgnoreAsciiCase_iff.2 hsame) (Bool.eq_false_iff.1 hqr)
  · rintro ⟨value, hvalues, hurl⟩
    obtain ⟨p, hp, rfl⟩ := List.map_eq_singleton_iff.1 hvalues
    have hmem : p ∈ l.filter fun p => eqIgnoreAsciiCase p.1 "resource_metadata" := by
      rw [hp]
      exact List.mem_cons_self
    exact ⟨p, (List.mem_filter.1 hmem).1, (List.mem_filter.1 hmem).2, hurl⟩

theorem infix_core {front after : List Char} (hafter : Blank after) :
    ", Bearer ".toList <:+: front ++ '"' :: after ↔ ", Bearer ".toList <:+: front ++ ['"'] := by
  constructor
  · intro h
    obtain h | h := infix_of_infix_append_cons h (by decide)
    · exact h.trans (List.prefix_append _ _).isInfix
    · exact absurd (hafter ',' (h.mem (by decide))) (by decide)
  · intro h
    have hwhole : front ++ ['"'] <+: front ++ '"' :: after := ⟨after, by simp⟩
    exact h.trans hwhole.isInfix

theorem trim_header {front after : List Char} (hafter : Blank after)
    (hs : s.toList = front ++ '"' :: after) :
    (trim ("Bearer " ++ s)).toList = "Bearer ".toList ++ (front ++ ['"']) := by
  have hheader : "Bearer " ++ s = .ofList ([] ++ ("Bearer ".toList ++ (front ++ ['"'])) ++
    after) := by
    rw [← String.toList_inj, String.toList_append, String.toList_ofList, hs]
    simp
  have hblank : Blank [] := fun _ hc => nomatch hc
  rw [hheader, trim_between hblank hafter, String.toList_ofList]
  constructor
  · intro c hc
    cases hc
    decide
  · intro c hc
    rw [← List.append_assoc, List.getLast?_concat] at hc
    cases hc
    decide

variable [DecidableEq Url]

theorem parse_eq_ok {toStr : List UInt8 → Option String} {parseUrl : String → Option Url}
    {policy : ManagedOAuthPolicy Url}
    (htext : ∀ value text, toStr value = some text → utf8 text = value)
    (h : ParameterList s.toList l) (hsize : (utf8 ("Bearer " ++ s)).length ≤ maxChallengeBytes) :
    (∃ challenge,
      DiscoveryChallenge.parse toStr parseUrl 401 [utf8 ("Bearer " ++ s)] policy = .ok challenge) ↔
      (toStr (utf8 ("Bearer " ++ s))).isSome ∧ ¬ ", Bearer ".toList <:+: s.toList ∧
        NamesMetadata parseUrl policy l := by
  obtain ⟨front, after, hs, hafter, hcore⟩ := h.core
  cases hstr : toStr (utf8 ("Bearer " ++ s)) with
  | none =>
    refine iff_of_false ?_ (fun hc => Bool.false_ne_true hc.1)
    rintro ⟨challenge, hparse⟩
    rw [DiscoveryChallenge.parse, check_bind_eq_ok] at hparse
    obtain ⟨values, hvalues, -⟩ := bind_eq_ok.1 hparse.2
    obtain ⟨text, htext⟩ := exists_ok_of_mapM_eq_ok hvalues _ List.mem_cons_self
    rw [hstr] at htext
    cases htext
  | some text =>
    obtain rfl := utf8_inj.1 (htext _ _ hstr)
    have hlist : (String.ofList (front ++ ['"'])).toList = front ++ ['"'] := String.toList_ofList
    have hlisted : ParameterList (String.ofList (front ++ ['"'])).toList l := by
      rw [hlist]
      exact hcore
    have hcontains : containsUnquotedChallenge (.ofList (front ++ ['"'])) = true ↔
        ", Bearer ".toList <:+: s.toList := by
      rw [containsUnquotedChallenge_iff hlisted, hlist, hs]
      exact (infix_core hafter).symm
    have hempty : (String.ofList (front ++ ['"'])).isEmpty = false := by
      rw [← Bool.not_eq_true, String.isEmpty_iff, ← String.toList_eq_nil_iff, hlist]
      simp
    have hvalues : [utf8 ("Bearer " ++ s)].mapM (fun value => okOr (toStr value) .invalidMetadata) =
        (.ok ["Bearer " ++ s] : Except AccessAuthError _) := by
      rw [List.mapM_cons, List.mapM_nil, hstr]
      rfl
    have hstrip : (trim ("Bearer " ++ s)).toList.dropPrefix? "Bearer ".toList =
      some (front ++ ['"']) := by
      rw [trim_header hafter hs, List.dropPrefix?_eq_some_iff]
      exact ⟨_, rfl, beq_self_eq_true _⟩
    rw [namesMetadata_iff h.2.1, DiscoveryChallenge.parse, hvalues, ← hcontains]
    constructor
    · rintro ⟨challenge, hparse⟩
      obtain ⟨-, hparse⟩ := check_bind_eq_ok.1 hparse
      obtain ⟨-, hparse⟩ := check_bind_eq_ok.1 hparse
      obtain ⟨rest, hrest, hparse⟩ := bind_eq_ok.1 hparse
      rw [okOr_eq_ok, hstrip] at hrest
      cases hrest
      obtain ⟨hclear, hparse⟩ := check_bind_eq_ok.1 hparse
      obtain ⟨parameters, hparameters, hparse⟩ := bind_eq_ok.1 hparse
      rw [parseParameters_iff.2 hlisted] at hparameters
      cases hparameters
      rw [ensure_eq_ok, hempty, Bool.false_or, Bool.not_eq_true'] at hclear
      dsimp only at hparse
      refine ⟨rfl, Bool.eq_false_iff.1 hclear, ?_⟩
      split at hparse
      · next value hvalue =>
        obtain ⟨url, hurl, hparse⟩ := bind_eq_ok.1 hparse
        obtain ⟨hpolicy, -⟩ := check_bind_eq_ok.1 hparse
        rw [ensure_eq_ok, decide_eq_true_iff] at hpolicy
        exact ⟨value, hvalue, hpolicy ▸ okOr_eq_ok.1 hurl⟩
      · cases hparse
    · rintro ⟨-, hclear, value, hvalue, hurl⟩
      refine ⟨⟨policy.protectedResourceMetadataUrl⟩,
        check_bind_eq_ok.2 ⟨rfl, check_bind_eq_ok.2 ⟨?_,
        bind_eq_ok.2 ⟨_, okOr_eq_ok.2 hstrip, check_bind_eq_ok.2 ⟨?_,
          bind_eq_ok.2 ⟨l, parseParameters_iff.2 hlisted, ?_⟩⟩⟩⟩⟩⟩
      · rw [ensure_eq_ok, decide_eq_true hsize]
      · rw [ensure_eq_ok, hempty, Bool.false_or, Bool.not_eq_true', Bool.eq_false_iff]
        exact hclear
      · dsimp only
        rw [hvalue]
        dsimp only
        rw [hurl]
        refine bind_eq_ok.2 ⟨_, rfl, check_bind_eq_ok.2 ⟨?_, rfl⟩⟩
        rw [ensure_eq_ok, decide_eq_true rfl]

/-- A text is read as parameters exactly when it is a list of them, and what is rendered is read
back. One header of such a list is accepted for its metadata URL alone exactly when a header that
names the URL reads as text without a challenge, even inside of a quoted string. -/
theorem challenge_of_parameters (toStr : List UInt8 → Option String)
    (htext : ∀ value text, toStr value = some text → utf8 text = value)
    (parseUrl : String → Option Url)
    (policy : ManagedOAuthPolicy Url) :
    (∀ s l, parseParameters s = .ok l ↔ ParameterList s.toList l) ∧
    (∀ l, l ≠ [] → (∀ p ∈ l, ValidName p.1) → l.Pairwise Apart →
      parseParameters (render l) = .ok l) ∧
    ∀ s l, ParameterList s.toList l → (utf8 ("Bearer " ++ s)).length ≤ maxChallengeBytes →
      (((∃ challenge,
        DiscoveryChallenge.parse toStr parseUrl 401 [utf8 ("Bearer " ++ s)] policy = .ok
          challenge) ↔
          NamesMetadata parseUrl policy l) ↔
        (NamesMetadata parseUrl policy l →
          (toStr (utf8 ("Bearer " ++ s))).isSome ∧ ¬ ", Bearer ".toList <:+: s.toList)) := by
  refine ⟨fun s l => parseParameters_iff, fun l => parseParameters_render, ?_⟩
  intro s l h hsize
  rw [parse_eq_ok htext h hsize]
  constructor
  · intro hiff hnames
    obtain ⟨hread, hclear, -⟩ := hiff.2 hnames
    exact ⟨hread, hclear⟩
  · intro hclear
    exact ⟨fun haccepted => haccepted.2.2,
      fun hnames => ⟨(hclear hnames).1, (hclear hnames).2, hnames⟩⟩

def visibleText (value : List UInt8) : Option String :=
  if value.all fun byte => 32 ≤ byte && byte < 127 || byte = 9 then String.fromUTF8? ⟨value.toArray⟩
    else none

theorem utf8_visibleText (value : List UInt8) (text : String) (h : visibleText value = some text) :
    utf8 text = value := by
  rw [visibleText] at h
  split at h
  · exact fromUTF8_eq_some.1 h
  · cases h

def metadataUrl : String :=
  "https://pal.example.com/.well-known/cloudflare-access-protected-resource/"

def challengeOf (realm : String) : String :=
  "realm=\"" ++ realm ++ "\", resource_metadata=\"" ++ metadataUrl ++ "\""

theorem challenge_of_parameters_exact :
    (∃ challenge,
      DiscoveryChallenge.parse visibleText some 401 [utf8 ("Bearer " ++ challengeOf "pal")]
        ⟨metadataUrl⟩ = .ok challenge) ↔
      NamesMetadata some ⟨metadataUrl⟩ [("realm", "pal"), ("resource_metadata", metadataUrl)] :=
  have htheorem := challenge_of_parameters visibleText utf8_visibleText some ⟨metadataUrl⟩
  (htheorem.2.2 _ _ ((htheorem.1 _ _).1 (by decide +kernel)) (by decide +kernel)).2
    fun _ => ⟨by decide +kernel, by decide +kernel⟩

/-- A challenge inside of a quoted string is taken for a second one. -/
theorem quoted_challenge_rejected :
    let s := challengeOf "a, Bearer b"
    ∃ l, ParameterList s.toList l ∧ (utf8 ("Bearer " ++ s)).length ≤ maxChallengeBytes ∧
      NamesMetadata some ⟨metadataUrl⟩ l ∧
      ¬ ∃ challenge, DiscoveryChallenge.parse visibleText some 401 [utf8 ("Bearer " ++ s)]
        ⟨metadataUrl⟩ = .ok challenge := by
  intro s
  have hlist : ParameterList s.toList [("realm", "a, Bearer b"),
    ("resource_metadata", metadataUrl)] :=
    parseParameters_iff.1 (by decide +kernel)
  have hsize : (utf8 ("Bearer " ++ s)).length ≤ maxChallengeBytes := by decide +kernel
  refine ⟨_, hlist, hsize, ⟨_, List.mem_cons_of_mem _ List.mem_cons_self, by decide, rfl⟩, ?_⟩
  rw [parse_eq_ok utf8_visibleText hlist hsize]
  intro haccepted
  have hinside : ", Bearer ".toList <:+: s.toList := by decide +kernel
  exact haccepted.2.1 hinside

end Theorem

end PalBeacon.Cloud
