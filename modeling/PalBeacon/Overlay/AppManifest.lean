import PalBeacon.Lib.Quoted

namespace PalBeacon.Overlay
open PalBeacon.Lib
set_option autoImplicit true

def maxVdfTokens : Nat := 131072
def maxVdfStringBytes : Nat := 64 * 1024
def fullyInstalledStateFlags : Nat := 4

inductive SteamClientBuildError where
  | unsupportedInstallation
  | manifestUnavailable
  | malformedManifest
  | applicationMismatch
  | installDirectoryMismatch
  | installationStateMismatch
  | buildMismatch
deriving DecidableEq, Repr

structure AppManifest where
  appId : String
  buildId : Nat
  installDir : String
deriving DecidableEq, Repr

inductive Token where
  | string (value : String)
  | opening
  | closing
deriving DecidableEq, Repr

section Tokens

def pushToken (tokens : List Token) (token : Token) : Except SteamClientBuildError
    (List Token) := do
  ensure (tokens.length < maxVdfTokens) .malformedManifest
  return tokens ++ [token]

def pushCharacter (value : List Char) (c : Char) : Except SteamClientBuildError (List Char) := do
  ensure ((utf8 (.ofList (value ++ [c]))).length ≤ maxVdfStringBytes) .malformedManifest
  return value ++ [c]

/-- The loop of `tokenize` over the characters that are left, between tokens or inside of a
string. -/
def tokenizeFrom (tokens : List Token) : Option (List Char) → List Char →
    Except SteamClientBuildError (List Token)
  | none, [] => .ok tokens
  | some _, [] => .error .malformedManifest
  | none, c :: cs =>
    if isWhitespace c then tokenizeFrom tokens none cs
    else if c = '{' then do
      let tokens ← pushToken tokens .opening
      tokenizeFrom tokens none cs
    else if c = '}' then do
      let tokens ← pushToken tokens .closing
      tokenizeFrom tokens none cs
    else if c = '"' then tokenizeFrom tokens (some []) cs
    else .error .malformedManifest
  | some value, c :: cs =>
    if c = '"' then do
      let tokens ← pushToken tokens (.string (.ofList value))
      tokenizeFrom tokens none cs
    else if c = '\\' then
      match cs with
      | [] => .error .malformedManifest
      | escaped :: cs =>
        if escaped = '\\' ∨ escaped = '"' then do
          let value ← pushCharacter value escaped
          tokenizeFrom tokens (some value) cs
        else .error .malformedManifest
    else if isControl c then .error .malformedManifest
    else do
      let value ← pushCharacter value c
      tokenizeFrom tokens (some value) cs

def tokenize (text : String) : Except SteamClientBuildError (List Token) :=
  tokenizeFrom [] none text.toList

end Tokens

section Fields

structure RequiredFields where
  appId : Option String
  buildId : Option String
  targetBuildId : Option String
  stateFlags : Option String
  installDir : Option String
deriving DecidableEq, Repr

def RequiredFields.default : RequiredFields := ⟨none, none, none, none, none⟩

def replace (target : Option String) (value : String) : Except SteamClientBuildError
    (Option String) := do
  ensure target.isNone .malformedManifest
  return some value

def RequiredFields.insert (fields : RequiredFields) (key value : String) :
    Except SteamClientBuildError RequiredFields :=
  if eqIgnoreAsciiCase key "appid" then do
    let target ← replace fields.appId value
    return { fields with appId := target }
  else if eqIgnoreAsciiCase key "buildid" then do
    let target ← replace fields.buildId value
    return { fields with buildId := target }
  else if eqIgnoreAsciiCase key "TargetBuildID" then do
    let target ← replace fields.targetBuildId value
    return { fields with targetBuildId := target }
  else if eqIgnoreAsciiCase key "StateFlags" then do
    let target ← replace fields.stateFlags value
    return { fields with stateFlags := target }
  else if eqIgnoreAsciiCase key "installdir" then do
    let target ← replace fields.installDir value
    return { fields with installDir := target }
  else return fields

def isRequiredField (key : String) : Bool :=
  ["appid", "buildid", "TargetBuildID", "StateFlags", "installdir"].any fun required =>
    eqIgnoreAsciiCase key required

def isAsciiDecimal (value : String) : Bool := !value.isEmpty && (utf8 value).all isAsciiDigit

def decimalValue (value : String) : Nat := (utf8 value).foldl
    (fun n byte => 10 * n + (byte.toNat - 48)) 0

def parseU64 (value : String) : Option Nat :=
  if decimalValue value < 2 ^ 64 then some (decimalValue value) else none

def isValidInstallDir (value : String) : Bool :=
  !value.isEmpty && value ≠ "." && value ≠ ".." &&
    !(value.toList.any fun c => c = '/' || c = '\\' || c = ':') &&
    value.toList.getLast? ≠ some '.' && value.toList.getLast? ≠ some ' ' &&
      !value.toList.any isControl

def decimalField (field : Option String) : Except SteamClientBuildError Nat := do
  let value ← okOr (field.filter isAsciiDecimal) .malformedManifest
  okOr (parseU64 value) .malformedManifest

def RequiredFields.finish (fields : RequiredFields) : Except SteamClientBuildError AppManifest := do
  let appId ← okOr (fields.appId.filter isAsciiDecimal) .malformedManifest
  let buildId ← decimalField fields.buildId
  let targetBuildId ← decimalField fields.targetBuildId
  let stateFlags ← decimalField fields.stateFlags
  let installDir ← okOr (fields.installDir.filter isValidInstallDir) .malformedManifest
  ensure (!(buildId = 0 || targetBuildId ≠ buildId)) .malformedManifest
  ensure (stateFlags = fullyInstalledStateFlags) .installationStateMismatch
  return ⟨appId, buildId, installDir⟩

end Fields

section Objects

def maxDepth : Nat := 32

/-- Only the keys of the outermost object are inserted. -/
def insertDirect (depth : Nat) (fields : RequiredFields) (key value : String) :
    Except SteamClientBuildError RequiredFields :=
  if depth = 1 then fields.insert key value else .ok fields

/-- The loop of `parse_object` over the tokens that are left, with a bound on its rounds: the number
of tokens up to the end of the object, and the fields. -/
def parseEntries : Nat → List Token → Nat → RequiredFields → Except SteamClientBuildError
    (Nat × RequiredFields)
  | 0, _, _, _ => .error .malformedManifest
  | fuel + 1, tokens, depth, fields =>
    match tokens with
    | .closing :: _ => .ok (1, fields)
    | .string key :: .string value :: rest => do
      let fields ← insertDirect depth fields key value
      let (consumed, fields) ← parseEntries fuel rest depth fields
      return (2 + consumed, fields)
    | .string key :: .opening :: rest => do
      ensure (!(depth = 1 && isRequiredField key)) .malformedManifest
      ensure (depth + 1 ≤ maxDepth) .malformedManifest
      let (inner, fields) ← parseEntries fuel rest (depth + 1) fields
      let (consumed, fields) ← parseEntries fuel (rest.drop inner) depth fields
      return (2 + inner + consumed, fields)
    | _ => .error .malformedManifest

def parseObject (tokens : List Token) (depth : Nat) (fields : RequiredFields) :
    Except SteamClientBuildError (Nat × RequiredFields) := do
  ensure (depth ≤ maxDepth) .malformedManifest
  parseEntries (tokens.length + 1) tokens depth fields

def parseAppManifest (bytes : List UInt8) : Except SteamClientBuildError AppManifest := do
  let text ← okOr (String.fromUTF8? ⟨bytes.toArray⟩) .malformedManifest
  let tokens ← tokenize text
  match tokens with
  | .string root :: .opening :: rest => do
    ensure (eqIgnoreAsciiCase root "AppState") .malformedManifest
    let (consumed, fields) ← parseObject rest 1 .default
    ensure (consumed = rest.length) .malformedManifest
    fields.finish
  | _ => .error .malformedManifest

end Objects

section Grammar

/-- What an object holds: keys with a string or with an object. -/
inductive Entries where
  | done
  | text (key value : String) (rest : Entries)
  | object (key : String) (inner rest : Entries)
deriving DecidableEq, Repr

namespace Entries

def tokens : Entries → List Token
  | done => []
  | text key value rest => .string key :: .string value :: rest.tokens
  | object key inner rest => .string key :: .opening :: (inner.tokens ++ .closing :: rest.tokens)

def depth : Entries → Nat
  | done => 1
  | text _ _ rest => rest.depth
  | object _ inner rest => max (inner.depth + 1) rest.depth

theorem depth_pos (entries : Entries) : 1 ≤ entries.depth := by
  induction entries with
  | done => exact Nat.le_refl 1
  | text key value rest ih => exact ih
  | object key inner rest ihInner ih => exact ih.trans (Nat.le_max_right _ _)

def direct : Entries → List (String × Option String)
  | done => []
  | text key value rest => (key, some value) :: rest.direct
  | object key _ rest => (key, none) :: rest.direct

end Entries

def rootTokens (root : String) (entries : Entries) : List Token :=
  .string root :: .opening :: (entries.tokens ++ [.closing])

def Escapes (c : Char) : Prop := c = '\\' ∨ c = '"'

/-- A text that spells tokens, with white space between them. -/
inductive Spelling : List Char → List Token → Prop
  | done : Spelling [] []
  | space : isWhitespace c = true → Spelling text tokens → Spelling (c :: text) tokens
  | opening : Spelling text tokens → Spelling ('{' :: text) (.opening :: tokens)
  | closing : Spelling text tokens → Spelling ('}' :: text) (.closing :: tokens)
  | string : Spells Escapes body value → Spelling text tokens →
      Spelling ('"' :: (body ++ '"' :: text)) (.string (.ofList value) :: tokens)

def Token.Fits : Token → Prop
  | .string value => (utf8 value).length ≤ maxVdfStringBytes
  | _ => True

def Limited (tokens : List Token) : Prop :=
  tokens.length ≤ maxVdfTokens ∧ ∀ token ∈ tokens, token.Fits

end Grammar

section Tokenizer
variable {tokens out : List Token} {text body value value' : List Char}

theorem pushToken_eq_ok : pushToken tokens token = .ok out ↔
    tokens.length + 1 ≤ maxVdfTokens ∧ tokens ++ [token] = out := by
  rw [pushToken, check_bind_eq_ok, ensure_eq_ok, decide_eq_true_iff]
  exact and_congr Iff.rfl ⟨Except.ok.inj, congrArg _⟩

theorem pushCharacter_eq_ok : pushCharacter value c = .ok value' ↔
    (utf8 (.ofList (value ++ [c]))).length ≤ maxVdfStringBytes ∧ value ++ [c] = value' := by
  rw [pushCharacter, check_bind_eq_ok, ensure_eq_ok, decide_eq_true_iff]
  exact and_congr Iff.rfl ⟨Except.ok.inj, congrArg _⟩

def Reads (tokens : List Token) : Option (List Char) → List Char → List Token → Prop
  | none, text, out => ∃ new, out = tokens ++ new ∧ Spelling text new ∧ ∀ token ∈ new, token.Fits
  | some value, text, out =>
    ∃ body part rest new, text = body ++ '"' :: rest ∧ Spells Escapes body part ∧
      out = tokens ++ .string (.ofList (value ++ part)) :: new ∧ Spelling rest new ∧
      (Token.string (.ofList (value ++ part))).Fits ∧ ∀ token ∈ new, token.Fits

theorem Reads.push (h : Reads (tokens ++ [token]) none text out)
    (hspelling : ∀ {new}, Spelling text new →
    Spelling text' (token :: new)) (hfits : token.Fits) : Reads tokens none text' out := by
  obtain ⟨new, rfl, hnew, hall⟩ := h
  exact ⟨token :: new, by simp, hspelling hnew, List.forall_mem_cons.2 ⟨hfits, hall⟩⟩

theorem Reads.grow (before : List Char) (h : Reads tokens (some (value ++ [c])) text out)
    (hspells : ∀ {body part}, Spells Escapes body part →
      Spells Escapes (before ++ body) (c :: part)) :
    Reads tokens (some value) (before ++ text) out := by
  obtain ⟨body, part, rest, new, rfl, hbody, rfl, hnew, hfits, hall⟩ := h
  rw [List.append_assoc, List.singleton_append] at hfits ⊢
  refine ⟨before ++ body, c :: part, rest, new, ?_, hspells hbody, rfl, hnew, hfits, hall⟩
  rw [List.append_assoc]

theorem tokenizeFrom_sound (h : tokenizeFrom tokens mode text = .ok out)
    (hlength : tokens.length ≤ maxVdfTokens)
    (hmode : ∀ value, mode = some value → (Token.string (.ofList value)).Fits) :
    Reads tokens mode text out ∧ out.length ≤ maxVdfTokens := by
  fun_induction tokenizeFrom tokens mode text with
  | case1 tokens =>
    cases h
    exact ⟨⟨[], (List.append_nil _).symm, .done, fun _ hmem => nomatch hmem⟩, hlength⟩
  | case2 => cases h
  | case3 tokens c cs hspace ih =>
    obtain ⟨⟨new, hout, hnew, hall⟩, hlimit⟩ := ih h hlength hmode
    exact ⟨⟨new, hout, .space hspace hnew, hall⟩, hlimit⟩
  | case4 tokens cs hspace ih =>
    obtain ⟨tokens', hpush, h⟩ := bind_eq_ok.1 h
    obtain ⟨hroom, rfl⟩ := pushToken_eq_ok.1 hpush
    obtain ⟨hreads, hlimit⟩ := ih _ h (by rwa [List.length_append]) hmode
    exact ⟨hreads.push .opening trivial, hlimit⟩
  | case5 tokens cs hspace hopening ih =>
    obtain ⟨tokens', hpush, h⟩ := bind_eq_ok.1 h
    obtain ⟨hroom, rfl⟩ := pushToken_eq_ok.1 hpush
    obtain ⟨hreads, hlimit⟩ := ih _ h (by rwa [List.length_append]) hmode
    exact ⟨hreads.push .closing trivial, hlimit⟩
  | case6 tokens cs hspace hopening hclosing ih =>
    have hempty : ∀ value, some [] = some value → (Token.string (.ofList value)).Fits := by
      intro value hvalue
      cases hvalue
      exact Nat.zero_le _
    obtain ⟨⟨body, part, rest, new, rfl, hbody, hout, hnew, hfits, hall⟩, hlimit⟩ :=
      ih h hlength hempty
    exact ⟨⟨.string (.ofList part) :: new, hout, .string hbody hnew,
      List.forall_mem_cons.2 ⟨hfits, hall⟩⟩, hlimit⟩
  | case7 => cases h
  | case8 tokens value cs ih =>
    obtain ⟨tokens', hpush, h⟩ := bind_eq_ok.1 h
    obtain ⟨hroom, rfl⟩ := pushToken_eq_ok.1 hpush
    have hnone : ∀ value, none = some value → (Token.string (.ofList value)).Fits :=
      fun _ hvalue => nomatch hvalue
    obtain ⟨⟨new, hout, hnew, hall⟩, hlimit⟩ := ih _ h (by rwa [List.length_append]) hnone
    refine ⟨⟨[], [], cs, new, rfl, .nil, ?_, hnew, ?_, hall⟩, hlimit⟩
    · rw [hout, List.append_nil]
      simp
    · rw [List.append_nil]
      exact hmode value rfl
  | case9 => cases h
  | case10 tokens value escaped cs hescapes hquote ih =>
    obtain ⟨value', hpush, h⟩ := bind_eq_ok.1 h
    obtain ⟨hfits, rfl⟩ := pushCharacter_eq_ok.1 hpush
    obtain ⟨hreads, hlimit⟩ := ih _ h hlength (fun _ hvalue => Option.some.inj hvalue ▸ hfits)
    exact ⟨hreads.grow ['\\', escaped] (.escaped hescapes), hlimit⟩
  | case11 => cases h
  | case12 => cases h
  | case13 tokens value c cs hquote hbackslash hcontrol ih =>
    obtain ⟨value', hpush, h⟩ := bind_eq_ok.1 h
    obtain ⟨hfits, rfl⟩ := pushCharacter_eq_ok.1 hpush
    obtain ⟨hreads, hlimit⟩ := ih _ h hlength (fun _ hvalue => Option.some.inj hvalue ▸ hfits)
    exact ⟨hreads.grow [c] (.plain hquote hbackslash (Bool.eq_false_iff.2 hcontrol)), hlimit⟩

theorem utf8_length_le (value part : List Char) (c : Char) :
    (utf8 (.ofList (value ++ [c]))).length ≤ (utf8 (.ofList (value ++ c :: part))).length := by
  have happend : String.ofList (value ++ c :: part) = .ofList (value ++ [c]) ++ .ofList part := by
    rw [← String.ofList_append]
    simp
  rw [happend, utf8_append, List.length_append]
  exact Nat.le_add_right _ _

theorem tokenizeFrom_body (h : Spells Escapes body part)
    (hfits : (Token.string (.ofList (value ++ part))).Fits) (rest : List Char) :
    tokenizeFrom tokens (some value) (body ++ '"' :: rest) = (do
      let tokens ← pushToken tokens (.string (.ofList (value ++ part)))
      tokenizeFrom tokens none rest) := by
  induction h generalizing value with
  | nil =>
    rw [List.nil_append, tokenizeFrom.eq_def, List.append_nil]
    exact if_pos rfl
  | @escaped c body part hc hbody ih =>
    have hpush := pushCharacter_eq_ok.2 ⟨(utf8_length_le value part c).trans hfits, rfl⟩
    have hgrown : value ++ c :: part = value ++ [c] ++ part := by simp
    have hescapes : c = '\\' ∨ c = '"' := hc
    rw [List.cons_append, List.cons_append, tokenizeFrom, if_neg (by decide), if_pos rfl,
      if_pos hescapes, hpush, hgrown]
    rw [hgrown] at hfits
    exact ih hfits
  | @plain c body part hquote hbackslash hcontrol hbody ih =>
    have hpush := pushCharacter_eq_ok.2 ⟨(utf8_length_le value part c).trans hfits, rfl⟩
    have hgrown : value ++ c :: part = value ++ [c] ++ part := by simp
    rw [List.cons_append, tokenizeFrom.eq_def]
    dsimp only
    rw [if_neg hquote, if_neg hbackslash, if_neg (Bool.eq_false_iff.1 hcontrol), hpush, hgrown]
    rw [hgrown] at hfits
    exact ih hfits

theorem pushToken_room (h : tokens.length + (token :: new).length ≤ maxVdfTokens) :
    pushToken tokens token = .ok (tokens ++ [token]) ∧
      (tokens ++ [token]).length + new.length ≤ maxVdfTokens := by
  rw [List.length_cons] at h
  rw [List.length_append, List.length_singleton]
  exact ⟨pushToken_eq_ok.2 ⟨by omega, rfl⟩, by omega⟩

theorem tokenizeFrom_complete (h : Spelling text new)
    (hlength : tokens.length + new.length ≤ maxVdfTokens)
    (hfits : ∀ token ∈ new, token.Fits) : tokenizeFrom tokens none text = .ok (tokens ++ new) := by
  induction h generalizing tokens with
  | done => rw [tokenizeFrom, List.append_nil]
  | space hspace htext ih =>
    rw [tokenizeFrom, if_pos hspace]
    exact ih hlength hfits
  | opening htext ih =>
    obtain ⟨hpush, hroom⟩ := pushToken_room hlength
    rw [tokenizeFrom, if_neg (by decide), if_pos rfl, hpush]
    refine (ih hroom (List.forall_mem_cons.1 hfits).2).trans ?_
    rw [List.append_assoc, List.singleton_append]
  | closing htext ih =>
    obtain ⟨hpush, hroom⟩ := pushToken_room hlength
    rw [tokenizeFrom, if_neg (by decide), if_neg (by decide), if_pos rfl, hpush]
    refine (ih hroom (List.forall_mem_cons.1 hfits).2).trans ?_
    rw [List.append_assoc, List.singleton_append]
  | @string body part text new hbody htext ih =>
    obtain ⟨hpush, hroom⟩ := pushToken_room hlength
    obtain ⟨hfirst, hrest⟩ := List.forall_mem_cons.1 hfits
    have hpart : (Token.string (.ofList ([] ++ part))).Fits := hfirst
    rw [tokenizeFrom, if_neg (by decide), if_neg (by decide), if_neg (by decide), if_pos rfl,
      tokenizeFrom_body hbody hpart, List.nil_append, hpush]
    refine (ih hroom hrest).trans ?_
    rw [List.append_assoc, List.singleton_append]

theorem tokenize_iff {s : String} : tokenize s = .ok tokens ↔ Spelling s.toList tokens ∧
    Limited tokens := by
  constructor
  · intro h
    have hnone : ∀ value, none = some value → (Token.string (.ofList value)).Fits :=
      fun _ hvalue => nomatch hvalue
    obtain ⟨⟨new, hnew, hspelling, hfits⟩, hlimit⟩ := tokenizeFrom_sound h (Nat.zero_le _) hnone
    rw [List.nil_append] at hnew
    subst hnew
    exact ⟨hspelling, hlimit, hfits⟩
  · rintro ⟨hspelling, hlimit, hfits⟩
    exact tokenizeFrom_complete hspelling (by rwa [List.length_nil, Nat.zero_add]) hfits

end Tokenizer

section Parser
variable {fields fields' : RequiredFields} {tokens rest : List Token}

/-- What the direct keys of an object leave in the fields. -/
def collect (fields : RequiredFields) : List (String × Option String) →
    Except SteamClientBuildError RequiredFields
  | [] => .ok fields
  | (key, some value) :: direct => do
    let fields ← fields.insert key value
    collect fields direct
  | (key, none) :: direct => do
    ensure (!isRequiredField key) .malformedManifest
    collect fields direct

/-- Only the keys of the outermost object are collected. -/
def Collected (depth : Nat) (fields : RequiredFields) (direct : List (String × Option String))
    (fields' : RequiredFields) : Prop :=
  if depth = 1 then collect fields direct = .ok fields' else fields = fields'

theorem parseEntries_sound (h : parseEntries fuel tokens depth fields = .ok (consumed, fields'))
    (hpos : 1 ≤ depth) (hdepth : depth ≤ maxDepth) :
    ∃ entries rest, tokens = Entries.tokens entries ++ .closing :: rest ∧
      consumed = entries.tokens.length + 1 ∧
      depth + entries.depth ≤ maxDepth + 1 ∧ Collected depth fields entries.direct fields' := by
  induction fuel generalizing tokens depth fields fields' consumed with
  | zero => cases h
  | succ fuel ih =>
    rw [parseEntries.eq_def] at h
    dsimp only at h
    split at h
    · cases h
      refine ⟨.done, _, rfl, rfl, Nat.succ_le_succ hdepth, ?_⟩
      rw [Collected]
      split
      · rfl
      · rfl
    · next key value rest =>
      obtain ⟨fields₁, hinsert, h⟩ := bind_eq_ok.1 h
      obtain ⟨⟨consumed₁, fields₂⟩, hrest, h⟩ := bind_eq_ok.1 h
      cases h
      obtain ⟨entries, rest', rfl, rfl, hwithin, hcollected⟩ := ih hrest hpos hdepth
      refine ⟨.text key value entries, rest', rfl, ?_, hwithin, ?_⟩
      · rw [Entries.tokens, List.length_cons, List.length_cons]
        omega
      · rw [Collected] at hcollected ⊢
        rw [insertDirect] at hinsert
        split at hinsert
        · next hone =>
          rw [if_pos hone] at hcollected ⊢
          exact bind_eq_ok.2 ⟨fields₁, hinsert, hcollected⟩
        · next hmore =>
          rw [if_neg hmore] at hcollected ⊢
          cases hinsert
          exact hcollected
    · next key rest =>
      obtain ⟨hkey, h⟩ := check_bind_eq_ok.1 h
      obtain ⟨hnested, h⟩ := check_bind_eq_ok.1 h
      rw [ensure_eq_ok, decide_eq_true_iff] at hnested
      obtain ⟨⟨consumed₁, fields₁⟩, hinner, h⟩ := bind_eq_ok.1 h
      obtain ⟨⟨consumed₂, fields₂⟩, hrest, h⟩ := bind_eq_ok.1 h
      cases h
      obtain ⟨inner, rest₁, rfl, rfl, hwithin₁, hcollected₁⟩ :=
        ih hinner (Nat.le_add_left 1 depth) hnested
      have hdrop : (inner.tokens ++ .closing :: rest₁).drop (inner.tokens.length + 1) = rest₁ := by
        rw [← List.drop_drop, List.drop_left]
        rfl
      rw [hdrop] at hrest
      obtain ⟨entries, rest₂, rfl, rfl, hwithin₂, hcollected₂⟩ := ih hrest hpos hdepth
      refine ⟨.object key inner entries, rest₂, ?_, ?_, ?_, ?_⟩
      · simp [Entries.tokens]
      · simp [Entries.tokens]
        omega
      · rw [Entries.depth]
        omega
      · have hfields : fields = fields₁ := by
          rwa [Collected, if_neg (by omega)] at hcollected₁
        subst hfields
        rw [Collected] at hcollected₂ ⊢
        split at hcollected₂
        · next hone =>
          rw [if_pos hone]
          refine check_bind_eq_ok.2 ⟨?_, hcollected₂⟩
          rw [ensure_eq_ok, hone] at hkey
          rw [ensure_eq_ok]
          simpa using hkey
        · next hmore =>
          rw [if_neg hmore]
          exact hcollected₂
    · cases h

theorem parseEntries_complete {entries : Entries} (hfuel : entries.tokens.length < fuel)
    (hpos : 1 ≤ depth)
    (hwithin : depth + entries.depth ≤ maxDepth + 1)
    (h : Collected depth fields entries.direct fields')
    (rest : List Token) :
    parseEntries fuel (entries.tokens ++ .closing :: rest) depth fields =
      .ok (entries.tokens.length + 1, fields') := by
  induction entries generalizing fuel depth fields fields' rest with
  | done =>
    obtain ⟨fuel, rfl⟩ := Nat.exists_eq_succ_of_ne_zero (Nat.ne_zero_of_lt hfuel)
    have hfields : fields = fields' := by
      rw [Collected] at h
      split at h
      · exact Except.ok.inj h
      · exact h
    rw [hfields]
    rfl
  | text key value entries ih =>
    obtain ⟨fuel, rfl⟩ := Nat.exists_eq_succ_of_ne_zero (Nat.ne_zero_of_lt hfuel)
    have hstep : ∃ fields₁, insertDirect depth fields key value = .ok fields₁ ∧
        Collected depth fields₁ entries.direct fields' := by
      rw [Collected] at h
      simp only [Collected, insertDirect]
      split at h
      · next hone =>
        obtain ⟨fields₁, hinsert, h⟩ := bind_eq_ok.1 h
        exact ⟨fields₁, by rwa [if_pos hone], by rwa [if_pos hone]⟩
      · next hmore => exact ⟨fields, if_neg hmore, by rwa [if_neg hmore]⟩
    obtain ⟨fields₁, hinsert, hcollected⟩ := hstep
    have hrest := ih (Nat.lt_of_succ_lt (Nat.lt_of_succ_lt_succ hfuel)) hpos hwithin hcollected rest
    rw [Entries.tokens, List.cons_append, List.cons_append, parseEntries, hinsert]
    refine bind_eq_ok.2 ⟨fields₁, rfl, bind_eq_ok.2 ⟨_, hrest, ?_⟩⟩
    change Except.ok (2 + (entries.tokens.length + 1), fields') = _
    rw [Nat.add_comm 2]
    rfl
  | object key inner entries ihInner ih =>
    obtain ⟨fuel, rfl⟩ := Nat.exists_eq_succ_of_ne_zero (Nat.ne_zero_of_lt hfuel)
    have hlength : (Entries.object key inner entries).tokens.length =
        2 + (inner.tokens.length + 1) + entries.tokens.length := by
      simp [Entries.tokens]
      omega
    rw [hlength] at hfuel
    rw [Entries.depth] at hwithin
    have hkey : (!(decide (depth = 1) && isRequiredField key)) = true ∧
        Collected depth fields entries.direct fields' := by
      rw [Collected] at h ⊢
      split at h
      · next hone =>
        obtain ⟨hkey, h⟩ := check_bind_eq_ok.1 h
        rw [ensure_eq_ok] at hkey
        rw [if_pos hone, hone]
        exact ⟨by simpa using hkey, h⟩
      · next hmore =>
        rw [if_neg hmore, decide_eq_false hmore]
        exact ⟨rfl, h⟩
    obtain ⟨hkey, hcollected⟩ := hkey
    have hnone : Collected (depth + 1) fields inner.direct fields := by
      rw [Collected, if_neg (by omega)]
    have hinner : parseEntries fuel
      (inner.tokens ++ .closing :: (entries.tokens ++ .closing :: rest)) (depth + 1)
        fields = .ok (inner.tokens.length + 1, fields) :=
      ihInner (by omega) (Nat.le_add_left 1 depth) (by omega) hnone _
    have hrest : parseEntries fuel (entries.tokens ++ .closing :: rest) depth fields =
        .ok (entries.tokens.length + 1, fields') := ih (by omega) hpos (by omega) hcollected rest
    have hdrop : (inner.tokens ++ .closing :: (entries.tokens ++ .closing :: rest)).drop
        (inner.tokens.length + 1) = entries.tokens ++ .closing :: rest := by
      rw [← List.drop_drop, List.drop_left]
      rfl
    rw [hlength, Entries.tokens, List.cons_append, List.cons_append, List.append_assoc,
      List.cons_append,
      parseEntries]
    refine check_bind_eq_ok.2 ⟨ensure_eq_ok.2 hkey,
      check_bind_eq_ok.2 ⟨ensure_eq_ok.2 ?_, bind_eq_ok.2
      ⟨_, hinner, bind_eq_ok.2 ⟨(entries.tokens.length + 1, fields'), ?_, rfl⟩⟩⟩⟩
    · rw [decide_eq_true_iff]
      have hdepth : 1 ≤ inner.depth := inner.depth_pos
      omega
    · rw [hdrop]
      exact hrest

end Parser

section Required
variable {fields fields' : RequiredFields} {f g : RequiredField}

inductive RequiredField where
  | appId
  | buildId
  | targetBuildId
  | stateFlags
  | installDir
deriving DecidableEq, Repr

def RequiredField.key : RequiredField → String
  | appId => "appid"
  | buildId => "buildid"
  | targetBuildId => "TargetBuildID"
  | stateFlags => "StateFlags"
  | installDir => "installdir"

namespace RequiredFields

def get (fields : RequiredFields) : RequiredField → Option String
  | .appId => fields.appId
  | .buildId => fields.buildId
  | .targetBuildId => fields.targetBuildId
  | .stateFlags => fields.stateFlags
  | .installDir => fields.installDir

def set (fields : RequiredFields) (f : RequiredField) (value : Option String) : RequiredFields :=
  match f with
  | .appId => { fields with appId := value }
  | .buildId => { fields with buildId := value }
  | .targetBuildId => { fields with targetBuildId := value }
  | .stateFlags => { fields with stateFlags := value }
  | .installDir => { fields with installDir := value }

theorem get_set (fields : RequiredFields) (f g : RequiredField) (value : Option String) :
    (fields.set f value).get g = if g = f then value else fields.get g := by
  cases f <;> cases g <;> rfl

theorem ext_get (h : ∀ f, fields.get f = fields'.get f) : fields = fields' := by
  cases fields
  cases fields'
  rw [mk.injEq]
  exact ⟨h .appId, h .buildId, h .targetBuildId, h .stateFlags, h .installDir⟩

end RequiredFields

def found (direct : List (String × Option String)) (f : RequiredField) : List (Option String) :=
  (direct.filter fun entry => eqIgnoreAsciiCase entry.1 f.key).map (·.2)

theorem field_unique (hf : eqIgnoreAsciiCase key f.key = true)
    (hg : eqIgnoreAsciiCase key g.key = true) :
    f = g := by
  have hsame := (eqIgnoreAsciiCase_iff.1 hf).symm.trans (eqIgnoreAsciiCase_iff.1 hg)
  revert hsame
  cases f <;> cases g <;> first | exact fun _ => rfl | exact fun h => absurd h (by decide)

theorem isRequiredField_iff : isRequiredField key = true ↔
    ∃ f : RequiredField, eqIgnoreAsciiCase key f.key = true := by
  rw [isRequiredField, List.any_eq_true]
  constructor
  · rintro ⟨required, hrequired, hkey⟩
    simp only [List.mem_cons, List.not_mem_nil, or_false] at hrequired
    rcases hrequired with rfl | rfl | rfl | rfl | rfl
    · exact ⟨.appId, hkey⟩
    · exact ⟨.buildId, hkey⟩
    · exact ⟨.targetBuildId, hkey⟩
    · exact ⟨.stateFlags, hkey⟩
    · exact ⟨.installDir, hkey⟩
  · rintro ⟨f, hkey⟩
    refine ⟨f.key, ?_, hkey⟩
    cases f <;> simp [RequiredField.key]

theorem insert_of_field (hf : eqIgnoreAsciiCase key f.key = true) : fields.insert key value =
    (replace (fields.get f) value >>= fun target => .ok (fields.set f target)) := by
  have hother : ∀ g : RequiredField, g ≠ f → ¬ eqIgnoreAsciiCase key g.key = true :=
    fun g hne hg => hne (field_unique hg hf)
  cases f with
  | appId => exact if_pos hf
  | buildId => exact (if_neg (hother .appId nofun)).trans (if_pos hf)
  | targetBuildId =>
    exact (if_neg (hother .appId nofun)).trans ((if_neg (hother .buildId nofun)).trans (if_pos hf))
  | stateFlags =>
    exact (if_neg (hother .appId nofun)).trans ((if_neg (hother .buildId nofun)).trans
      ((if_neg (hother .targetBuildId nofun)).trans (if_pos hf)))
  | installDir =>
    exact (if_neg (hother .appId nofun)).trans ((if_neg (hother .buildId nofun)).trans
      ((if_neg (hother .targetBuildId nofun)).trans
        ((if_neg (hother .stateFlags nofun)).trans (if_pos hf))))

theorem insert_of_no_field (h : ∀ f : RequiredField, ¬ eqIgnoreAsciiCase key f.key = true) :
    fields.insert key value = .ok fields := by
  exact (if_neg (h .appId)).trans ((if_neg (h .buildId)).trans ((if_neg (h .targetBuildId)).trans
    ((if_neg (h .stateFlags)).trans (if_neg (h .installDir)))))

theorem insert_eq_ok : fields.insert key value = .ok fields' ↔
    ∀ f : RequiredField, if eqIgnoreAsciiCase key f.key then fields.get f = none ∧
      fields'.get f = some value
      else fields'.get f = fields.get f := by
  by_cases hkey : ∃ f : RequiredField, eqIgnoreAsciiCase key f.key = true
  · obtain ⟨f, hf⟩ := hkey
    rw [insert_of_field hf, replace]
    cases hget : fields.get f with
    | some old =>
      refine iff_of_false (fun h => nomatch h) ?_
      intro h
      have hnone := h f
      rw [if_pos hf, hget] at hnone
      cases hnone.1
    | none =>
      constructor
      · intro h
        cases h
        intro g
        rw [RequiredFields.get_set]
        split
        · next hg =>
          obtain rfl := field_unique hg hf
          rw [if_pos rfl]
          exact ⟨hget, rfl⟩
        · next hg =>
          rw [if_neg]
          rintro rfl
          exact hg hf
      · intro h
        refine congrArg Except.ok (RequiredFields.ext_get fun g => ?_)
        have hg := h g
        rw [RequiredFields.get_set]
        split
        · next he =>
          subst he
          rw [if_pos hf] at hg
          exact hg.2.symm
        · next hne =>
          rw [if_neg fun hg' => hne (field_unique hg' hf)] at hg
          exact hg.symm
  · rw [insert_of_no_field fun f hf => hkey ⟨f, hf⟩]
    constructor
    · intro h f
      cases h
      rw [if_neg fun hf => hkey ⟨f, hf⟩]
    · intro h
      refine congrArg Except.ok (RequiredFields.ext_get fun f => ?_)
      have hf := h f
      rw [if_neg fun hf => hkey ⟨f, hf⟩] at hf
      exact hf.symm

theorem exists_insert (value : String)
    (h : ∀ f : RequiredField, eqIgnoreAsciiCase key f.key = true → fields.get f = none) :
    ∃ fields', fields.insert key value = .ok fields' := by
  by_cases hkey : ∃ f : RequiredField, eqIgnoreAsciiCase key f.key = true
  · obtain ⟨f, hf⟩ := hkey
    rw [insert_of_field hf, replace, h f hf]
    exact ⟨_, rfl⟩
  · exact ⟨fields, insert_of_no_field fun f hf => hkey ⟨f, hf⟩⟩

/-- A field stays as it was when nothing is found for it, and else takes the one string that is
found. -/
def Settles (init : Option String) (values : List (Option String)) (final : Option String) : Prop :=
  values = [] ∧ final = init ∨ ∃ value, init = none ∧ values = [some value] ∧ final = some value

theorem found_cons (entry : String × Option String) (direct : List (String × Option String))
    (f : RequiredField) :
    found (entry :: direct) f =
      if eqIgnoreAsciiCase entry.1 f.key then entry.2 :: found direct f else found direct f := by
  rw [found, List.filter_cons]
  split <;> rfl

theorem settles_cons_some : Settles init (some value :: values) final ↔
    init = none ∧ values = [] ∧ final = some value := by
  constructor
  · rintro (⟨hnil, -⟩ | ⟨value', hinit, hvalues, hfinal⟩)
    · cases hnil
    · cases hvalues
      exact ⟨hinit, rfl, hfinal⟩
  · rintro ⟨hinit, rfl, hfinal⟩
    exact .inr ⟨value, hinit, rfl, hfinal⟩

theorem settles_some : Settles (some value) values final ↔ values = [] ∧ final = some value := by
  constructor
  · rintro (h | ⟨value', hinit, -⟩)
    · exact h
    · cases hinit
  · exact .inl

theorem collect_eq_ok : collect fields direct = .ok fields' ↔
    ∀ f, Settles (fields.get f) (found direct f) (fields'.get f) := by
  induction direct generalizing fields with
  | nil =>
    constructor
    · intro h f
      cases h
      exact .inl ⟨rfl, rfl⟩
    · intro h
      refine congrArg Except.ok (RequiredFields.ext_get fun f => ?_)
      obtain ⟨-, hfinal⟩ | ⟨value, -, hvalues, -⟩ := h f
      · exact hfinal.symm
      · cases hvalues
  | cons entry direct ih =>
    obtain ⟨key, _ | value⟩ := entry
    · rw [collect, check_bind_eq_ok, ih, ensure_eq_ok, Bool.not_eq_true', Bool.eq_false_iff, ne_eq,
        isRequiredField_iff]
      constructor
      · rintro ⟨hkey, h⟩ f
        rw [found_cons, if_neg fun hf => hkey ⟨f, hf⟩]
        exact h f
      · intro h
        have hkey : ¬ ∃ f : RequiredField, eqIgnoreAsciiCase key f.key = true := by
          rintro ⟨f, hf⟩
          have hnone := h f
          rw [found_cons, if_pos hf] at hnone
          obtain ⟨hnil, -⟩ | ⟨value, -, hvalues, -⟩ := hnone
          · cases hnil
          · cases hvalues
        refine ⟨hkey, fun f => ?_⟩
        have hf := h f
        rwa [found_cons, if_neg fun hf => hkey ⟨f, hf⟩] at hf
    · rw [collect, bind_eq_ok]
      constructor
      · rintro ⟨fields₁, hinsert, hrest⟩ f
        have hf := insert_eq_ok.1 hinsert f
        have hsettles := ih.1 hrest f
        rw [found_cons]
        split
        · next hkey =>
          rw [if_pos hkey] at hf
          rw [hf.2, settles_some] at hsettles
          exact settles_cons_some.2 ⟨hf.1, hsettles⟩
        · next hkey =>
          rw [if_neg hkey] at hf
          rwa [hf] at hsettles
      · intro h
        have hfree : ∀ f : RequiredField, eqIgnoreAsciiCase key f.key = true →
          fields.get f = none := by
          intro f hkey
          have hf := h f
          rw [found_cons, if_pos hkey] at hf
          exact (settles_cons_some.1 hf).1
        obtain ⟨fields₁, hinsert⟩ := exists_insert value hfree
        refine ⟨fields₁, hinsert, ih.2 fun f => ?_⟩
        have hf := insert_eq_ok.1 hinsert f
        have hsettles := h f
        rw [found_cons] at hsettles
        split at hsettles
        · next hkey =>
          rw [if_pos hkey] at hf
          rw [hf.2, settles_some]
          exact (settles_cons_some.1 hsettles).2
        · next hkey =>
          rw [if_neg hkey] at hf
          rwa [hf]

end Required

section Manifest

/-- What the values of the five fields have to be, and the manifest that they give. -/
structure Describes (values : RequiredField → String) (m : AppManifest) : Prop where
  decimal : ∀ f, f ≠ .installDir → isAsciiDecimal (values f) = true
  fits : ∀ f, f = .buildId ∨ f = .targetBuildId ∨ f = .stateFlags → decimalValue (values f) < 2 ^ 64
  build_ne : decimalValue (values .buildId) ≠ 0
  target : decimalValue (values .targetBuildId) = decimalValue (values .buildId)
  installed : decimalValue (values .stateFlags) = fullyInstalledStateFlags
  installDir : isValidInstallDir (values .installDir) = true
  result : m = ⟨values .appId, decimalValue (values .buildId), values .installDir⟩

theorem decimalField_eq_ok : decimalField field = .ok n ↔
    ∃ value, field = some value ∧ isAsciiDecimal value = true ∧ decimalValue value < 2 ^ 64 ∧
      decimalValue value = n := by
  rw [decimalField, bind_eq_ok]
  simp only [okOr_eq_ok, Option.filter_eq_some_iff, parseU64]
  constructor
  · rintro ⟨value, ⟨hfield, hdecimal⟩, hvalue⟩
    split at hvalue
    · next hfits => exact ⟨value, hfield, hdecimal, hfits, Option.some.inj hvalue⟩
    · cases hvalue
  · rintro ⟨value, hfield, hdecimal, hfits, hn⟩
    exact ⟨value, ⟨hfield, hdecimal⟩, by rw [if_pos hfits, hn]⟩

theorem finish_eq_ok {fields : RequiredFields} : fields.finish = .ok m ↔
    ∃ values, (∀ f, fields.get f = some (values f)) ∧ Describes values m := by
  rw [RequiredFields.finish]
  constructor
  · intro h
    obtain ⟨app, happ, h⟩ := bind_eq_ok.1 h
    obtain ⟨build, hbuild, h⟩ := bind_eq_ok.1 h
    obtain ⟨target, htarget, h⟩ := bind_eq_ok.1 h
    obtain ⟨flags, hflags, h⟩ := bind_eq_ok.1 h
    obtain ⟨dir, hdir, h⟩ := bind_eq_ok.1 h
    obtain ⟨hbuilds, h⟩ := check_bind_eq_ok.1 h
    obtain ⟨hinstalled, hm⟩ := check_bind_eq_ok.1 h
    rw [okOr_eq_ok, Option.filter_eq_some_iff] at happ hdir
    obtain ⟨buildText, hbuildText, hbuildDecimal, hbuildFits, rfl⟩ := decimalField_eq_ok.1 hbuild
    obtain ⟨targetText, htargetText, htargetDecimal, htargetFits, rfl⟩ :=
      decimalField_eq_ok.1 htarget
    obtain ⟨flagsText, hflagsText, hflagsDecimal, hflagsFits, rfl⟩ := decimalField_eq_ok.1 hflags
    simp only [ensure_eq_ok, Bool.not_eq_true', Bool.or_eq_false_iff,
      decide_eq_false_iff_not, not_not,
      decide_eq_true_eq] at hbuilds hinstalled
    let values : RequiredField → String
      | .appId => app
      | .buildId => buildText
      | .targetBuildId => targetText
      | .stateFlags => flagsText
      | .installDir => dir
    refine ⟨values, ?_, ?_⟩
    · intro f
      cases f with
      | appId => exact happ.1
      | buildId => exact hbuildText
      | targetBuildId => exact htargetText
      | stateFlags => exact hflagsText
      | installDir => exact hdir.1
    · constructor
      case decimal =>
        intro f hf
        cases f with
        | appId => exact happ.2
        | buildId => exact hbuildDecimal
        | targetBuildId => exact htargetDecimal
        | stateFlags => exact hflagsDecimal
        | installDir => exact absurd rfl hf
      case fits =>
        rintro f (rfl | rfl | rfl)
        · exact hbuildFits
        · exact htargetFits
        · exact hflagsFits
      case build_ne => exact hbuilds.1
      case target => exact hbuilds.2
      case installed => exact hinstalled
      case installDir => exact hdir.2
      case result => exact (Except.ok.inj hm).symm
  · rintro ⟨values, hvalues, h⟩
    have happ : okOr (fields.appId.filter isAsciiDecimal) SteamClientBuildError.malformedManifest =
        .ok (values .appId) :=
      okOr_eq_ok.2 (Option.filter_eq_some_iff.2 ⟨hvalues .appId, h.decimal .appId (by decide)⟩)
    have hdir : okOr (fields.installDir.filter isValidInstallDir)
      SteamClientBuildError.malformedManifest =
        .ok (values .installDir) :=
      okOr_eq_ok.2 (Option.filter_eq_some_iff.2 ⟨hvalues .installDir, h.installDir⟩)
    have hnumber : ∀ f, f ≠ .installDir → (f = .buildId ∨ f = .targetBuildId ∨ f = .stateFlags) →
        decimalField (fields.get f) = .ok (decimalValue (values f)) := fun f hne hf =>
      decimalField_eq_ok.2 ⟨values f, hvalues f, h.decimal f hne, h.fits f hf, rfl⟩
    refine bind_eq_ok.2 ⟨_, happ, bind_eq_ok.2 ⟨_, hnumber .buildId (by decide) (.inl rfl),
      bind_eq_ok.2
      ⟨_, hnumber .targetBuildId (by decide) (.inr (.inl rfl)),
        bind_eq_ok.2 ⟨_, hnumber .stateFlags (by decide)
        (.inr (.inr rfl)), bind_eq_ok.2 ⟨_, hdir,
          check_bind_eq_ok.2 ⟨?_, check_bind_eq_ok.2 ⟨?_, ?_⟩⟩⟩⟩⟩⟩⟩
    · rw [ensure_eq_ok, h.target, decide_eq_false h.build_ne, decide_eq_false (not_not.2 rfl)]
      rfl
    · rw [ensure_eq_ok, h.installed, decide_eq_true rfl]
    · rw [h.result]
      rfl

theorem parseObject_eq_ok {tokens : List Token} {fields : RequiredFields} :
    (∃ consumed, parseObject tokens 1 .default = .ok (consumed, fields) ∧
      consumed = tokens.length) ↔
      ∃ entries : Entries, tokens = entries.tokens ++ [.closing] ∧ entries.depth ≤ maxDepth ∧
        collect .default entries.direct = .ok fields := by
  constructor
  · rintro ⟨consumed, h, rfl⟩
    rw [parseObject, check_bind_eq_ok] at h
    obtain ⟨entries, rest, htokens, hlength, hwithin, hcollected⟩ :=
      parseEntries_sound h.2 (Nat.le_refl 1) (by decide)
    have hrest : rest = [] := by
      rw [htokens, List.length_append, List.length_cons] at hlength
      exact List.length_eq_zero_iff.1 (by omega)
    subst hrest
    exact ⟨entries, htokens, by omega, hcollected⟩
  · rintro ⟨entries, rfl, hdepth, hcollected⟩
    have hfuel : entries.tokens.length < (entries.tokens ++ [Token.closing]).length + 1 := by
      rw [List.length_append]
      omega
    have hdirect : Collected 1 .default entries.direct fields := by
      rw [Collected, if_pos rfl]
      exact hcollected
    have hparse := parseEntries_complete hfuel (Nat.le_refl 1) (by omega) hdirect []
    refine ⟨_, check_bind_eq_ok.2 ⟨rfl, hparse⟩, ?_⟩
    rw [List.length_append, List.length_singleton]

theorem parseAppManifest_eq_ok : parseAppManifest bytes = .ok m ↔
    ∃ text root entries values, utf8 text = bytes ∧ Spelling text.toList (rootTokens root entries) ∧
      Limited (rootTokens root entries) ∧ eqIgnoreAsciiCase root "AppState" = true ∧
        entries.depth ≤ maxDepth ∧
      (∀ f, found entries.direct f = [some (values f)]) ∧ Describes values m := by
  rw [parseAppManifest]
  constructor
  · intro h
    obtain ⟨text, htext, h⟩ := bind_eq_ok.1 h
    obtain ⟨tokens, htokens, h⟩ := bind_eq_ok.1 h
    rw [okOr_eq_ok, fromUTF8_eq_some] at htext
    obtain ⟨hspelling, hlimited⟩ := tokenize_iff.1 htokens
    split at h
    · next root rest =>
      obtain ⟨hroot, h⟩ := check_bind_eq_ok.1 h
      obtain ⟨⟨consumed, fields⟩, hobject, h⟩ := bind_eq_ok.1 h
      obtain ⟨hconsumed, hfinish⟩ := check_bind_eq_ok.1 h
      rw [ensure_eq_ok, decide_eq_true_iff] at hconsumed
      rw [ensure_eq_ok] at hroot
      obtain ⟨entries, rfl, hdepth, hcollect⟩ := parseObject_eq_ok.1 ⟨consumed, hobject, hconsumed⟩
      obtain ⟨values, hvalues, hdescribes⟩ := finish_eq_ok.1 hfinish
      refine ⟨text, root, entries, values, htext, hspelling, hlimited, hroot, hdepth, ?_,
        hdescribes⟩
      intro f
      obtain ⟨-, hfinal⟩ | ⟨value, -, hfound, hfinal⟩ := collect_eq_ok.1 hcollect f
      · rw [hvalues f] at hfinal
        cases f <;> cases hfinal
      · rw [hvalues f] at hfinal
        rw [hfound, hfinal]
    · cases h
  · rintro ⟨text, root, entries, values, rfl, hspelling, hlimited, hroot, hdepth, hfound,
      hdescribes⟩
    let fields : RequiredFields :=
      ⟨some (values .appId), some (values .buildId), some (values .targetBuildId),
      some (values .stateFlags), some (values .installDir)⟩
    have hget : ∀ f, fields.get f = some (values f) := by
      intro f
      cases f <;> rfl
    have hcollect : collect .default entries.direct = .ok fields := by
      refine collect_eq_ok.2 fun f => .inr ⟨values f, ?_, hfound f, hget f⟩
      cases f <;> rfl
    obtain ⟨consumed, hobject, hconsumed⟩ := parseObject_eq_ok.2 ⟨entries, rfl, hdepth, hcollect⟩
    refine bind_eq_ok.2 ⟨text, okOr_eq_ok.2 (fromUTF8_utf8 text),
      bind_eq_ok.2 ⟨rootTokens root entries,
      tokenize_iff.2 ⟨hspelling, hlimited⟩, ?_⟩⟩
    refine check_bind_eq_ok.2 ⟨ensure_eq_ok.2 hroot,
      bind_eq_ok.2 ⟨_, hobject, check_bind_eq_ok.2 ⟨?_,
      finish_eq_ok.2 ⟨values, hget, hdescribes⟩⟩⟩⟩
    rw [ensure_eq_ok, decide_eq_true hconsumed]

end Manifest

section Theorem

def Token.plain : Token → Bool
  | .string value => !value.toList.any isControl
  | _ => true

def renderToken : Token → List Char
  | .string value => '"' :: (escape value.toList ++ ['"'])
  | .opening => ['{']
  | .closing => ['}']

/-- The text of a tree, without white space. -/
def render (root : String) (entries : Entries) : String :=
  .ofList ((rootTokens root entries).flatMap renderToken)

theorem spelling_render (h : ∀ token ∈ tokens, token.plain = true) :
    Spelling (tokens.flatMap renderToken) tokens := by
  induction tokens with
  | nil => exact .done
  | cons token tokens ih =>
    obtain ⟨htoken, htokens⟩ := List.forall_mem_cons.1 h
    rw [List.flatMap_cons]
    cases token with
    | opening => exact .opening (ih htokens)
    | closing => exact .closing (ih htokens)
    | string value =>
      have hspells : Spells Escapes (escape value.toList) value.toList := by
        apply spells_escape
        intro c hc hspecial
        rw [Token.plain, Bool.not_eq_true', List.any_eq_false] at htoken
        obtain hquote | hbackslash | hcontrol := hspecial
        · exact .inr hquote
        · exact .inl hbackslash
        · exact absurd hcontrol (htoken c hc)
      have hstring := Spelling.string hspells (ih htokens)
      rw [String.ofList_toList] at hstring
      simpa [renderToken] using hstring

/-- The parser accepts exactly the texts of its grammar, with the values of the five direct fields,
and it reads the rendering of a tree back. -/
theorem app_manifest_grammar :
    (∀ bytes m, parseAppManifest bytes = .ok m ↔
      ∃ text root entries values, utf8 text = bytes ∧
        Spelling text.toList (rootTokens root entries) ∧
        Limited (rootTokens root entries) ∧ eqIgnoreAsciiCase root "AppState" = true ∧
          entries.depth ≤ maxDepth ∧
        (∀ f, found entries.direct f = [some (values f)]) ∧ Describes values m) ∧
    ∀ root entries values m, (∀ token ∈ rootTokens root entries, token.plain = true) →
      Limited (rootTokens root entries) → eqIgnoreAsciiCase root "AppState" = true →
        entries.depth ≤ maxDepth →
      (∀ f, found entries.direct f = [some (values f)]) → Describes values m →
      parseAppManifest (utf8 (render root entries)) = .ok m := by
  refine ⟨fun bytes m => parseAppManifest_eq_ok, ?_⟩
  intro root entries values m hplain hlimited hroot hdepth hfound hdescribes
  refine parseAppManifest_eq_ok.2 ⟨_, root, entries, values, rfl, ?_, hlimited, hroot, hdepth,
    hfound, hdescribes⟩
  rw [render, String.toList_ofList]
  exact spelling_render hplain

instance (token : Token) : Decidable token.Fits :=
  match token with
  | .string value => inferInstanceAs (Decidable ((utf8 value).length ≤ maxVdfStringBytes))
  | .opening => isTrue trivial
  | .closing => isTrue trivial

/-- A manifest with another build inside of a nested object. -/
def nestedEntries : Entries :=
  .text "appid" "1623730" <| .text "StateFlags" "4" <| .object "Nested"
    (.text "buildid" "1" .done) <|
    .text "installdir" "Palworld" <| .text "BuildID" "24181527" <| .text "TargetBuildID"
      "24181527" .done

def nestedValues : RequiredField → String
  | .appId => "1623730"
  | .buildId => "24181527"
  | .targetBuildId => "24181527"
  | .stateFlags => "4"
  | .installDir => "Palworld"

theorem app_manifest_grammar_nested : parseAppManifest (utf8 (render "AppState" nestedEntries)) =
    .ok ⟨"1623730", 24181527, "Palworld"⟩ := by
  have hlimited : Limited (rootTokens "AppState" nestedEntries) := ⟨by decide, by decide⟩
  have hfound : ∀ f, found nestedEntries.direct f = [some (nestedValues f)] := by
    intro f
    cases f <;> decide
  have hdescribes : Describes nestedValues ⟨"1623730", 24181527, "Palworld"⟩ := by
    constructor
    case decimal =>
      intro f hf
      cases f <;> first | decide | exact absurd rfl hf
    case fits =>
      rintro f (rfl | rfl | rfl)
      all_goals decide
    case build_ne => decide
    case target => rfl
    case installed => decide
    case installDir => decide
    case result => decide
  exact app_manifest_grammar.2 "AppState" nestedEntries nestedValues _ (by decide) hlimited
    (by decide) (by decide) hfound hdescribes

end Theorem

end PalBeacon.Overlay
