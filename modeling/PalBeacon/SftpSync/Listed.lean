import PalBeacon.Lib.Delimited
import PalBeacon.SftpSync.Sync

namespace PalBeacon.SftpSync
open PalBeacon.Lib
open PalBeacon.SaveIngest
  (SaveFileRole maxLevelBytes maxPlayerBytes maxTotalBytes playerSaveRole playerSaveStem)
set_option autoImplicit true

theorem stripSuffix_append (name suffix : List UInt8) : stripSuffix suffix
    (name ++ suffix) = some name := by
  rw [stripSuffix, if_pos (List.suffix_append _ _), List.length_append, Nat.add_sub_cancel,
    List.take_left]

theorem stripSuffix_eq_some : stripSuffix suffix name = some stem ↔ name = stem ++ suffix := by
  constructor
  · intro h
    unfold stripSuffix at h
    split at h
    next hs =>
      obtain ⟨stem', rfl⟩ := hs
      rw [List.length_append, Nat.add_sub_cancel, List.take_left] at h
      rw [Option.some.inj h]
    next => cases h
  · rintro rfl
    exact stripSuffix_append stem suffix

theorem utf8_dps_sav : utf8 "_dps.sav" = utf8 "_dps" ++ utf8 ".sav" := by decide

theorem isPlayerSaveName_cases (h : isPlayerSaveName name = true) :
    ∃ stem, playerStem name = some stem ∧ stem.all isAsciiHexdigit = true ∧ 8 ≤ stem.length ∧
      stem.length ≤ 64 ∧
        (utf8 name = stem ++ utf8 "_dps.sav" ∨ utf8 name = stem ++ utf8 ".sav") := by
  unfold isPlayerSaveName at h
  obtain ⟨stem, hstem, hall⟩ := Option.any_eq_true _ _ |>.1 h
  simp only [Bool.and_eq_true, decide_eq_true_eq] at hall
  refine ⟨stem, hstem, hall.2, hall.1.1, hall.1.2, ?_⟩
  obtain ⟨rest, hrest, hs⟩ := Option.map_eq_some_iff.1 hstem
  rw [stripSuffix_eq_some] at hrest
  cases hdps : stripSuffix (utf8 "_dps") rest with
  | some stem' =>
    rw [hdps, Option.getD_some] at hs
    subst hs
    rw [stripSuffix_eq_some] at hdps
    left
    rw [hrest, hdps, utf8_dps_sav, List.append_assoc]
  | none =>
    rw [hdps, Option.getD_none] at hs
    subst hs
    exact .inr hrest

set_option maxRecDepth 4000 in
theorem isAsciiHexdigit_toAsciiLowercase (byte : UInt8) (h : isAsciiHexdigit byte = true) :
    isAsciiHexdigit (toAsciiLowercase byte) = true ∧ toAsciiLowercase byte ≠ 95 := by
  have hall : ∀ n < 256, isAsciiHexdigit (.ofNat n) = true →
      isAsciiHexdigit (toAsciiLowercase (.ofNat n)) = true ∧ toAsciiLowercase (.ofNat n) ≠ 95 := by
    decide
  have hbyte := hall byte.toNat byte.toNat_lt
  rw [UInt8.ofNat_toNat] at hbyte
  exact hbyte h

theorem all_map_toAsciiLowercase {stem : List UInt8} (h : stem.all isAsciiHexdigit = true) :
    (stem.map toAsciiLowercase).all isAsciiHexdigit = true ∧ 95 ∉ stem.map toAsciiLowercase := by
  rw [List.all_eq_true] at h
  constructor
  · rw [List.all_map, List.all_eq_true]
    exact fun byte hm => (isAsciiHexdigit_toAsciiLowercase byte (h byte hm)).1
  · intro hm
    obtain ⟨byte, hb, he⟩ := List.mem_map.1 hm
    exact (isAsciiHexdigit_toAsciiLowercase byte (h byte hb)).2 he

theorem playerSaveStem_of_playerStem (h : isPlayerSaveName name = true)
    (hstem : playerStem name = some stem) :
    ∃ role, playerSaveStem name = some (stem.map toAsciiLowercase, role) := by
  obtain ⟨stem', hstem', hhex, -, -, hname⟩ := isPlayerSaveName_cases h
  obtain rfl := Option.some.inj (hstem'.symm.trans hstem)
  have hdps : (utf8 "_dps.sav").map toAsciiLowercase = utf8 "_dps.sav" := by decide
  have hsav : (utf8 ".sav").map toAsciiLowercase = utf8 ".sav" := by decide
  have hdpsLength : (utf8 "_dps.sav").length = 8 := by decide
  have hsavLength : (utf8 ".sav").length = 4 := by decide
  unfold playerSaveStem
  rcases hname with hname | hname
  · rw [hname, List.map_append, hdps]
    simp only
    rw [if_pos (List.suffix_append _ _), List.length_append, hdpsLength, Nat.add_sub_cancel,
      List.take_left]
    exact ⟨_, rfl⟩
  · have hno : ¬utf8 "_dps.sav" <:+ stem'.map toAsciiLowercase ++ utf8 ".sav" := by
      have hmark : (95 : UInt8) ∈ utf8 "_dps" := by decide
      rintro ⟨rest, hrest⟩
      rw [utf8_dps_sav, ← List.append_assoc] at hrest
      apply (all_map_toAsciiLowercase hhex).2
      rw [← List.append_cancel_right hrest]
      exact List.mem_append_right _ hmark
    rw [hname, List.map_append, hsav]
    simp only
    rw [if_neg hno, if_pos (List.suffix_append _ _), List.length_append, hsavLength,
      Nat.add_sub_cancel,
      List.take_left]
    exact ⟨_, rfl⟩

theorem playerSaveRole_isSome_iff (h : isPlayerSaveName name = true) :
    (playerSaveRole name).isSome = true ↔ (playerStem name).map List.length = some 32 := by
  obtain ⟨stem, hstem, hhex, -, -, -⟩ := isPlayerSaveName_cases h
  obtain ⟨role, hrole⟩ := playerSaveStem_of_playerStem h hstem
  unfold playerSaveRole
  rw [hrole, hstem, Option.map_some, Option.some.injEq]
  simp only [List.length_map, (all_map_toAsciiLowercase hhex).1, Bool.and_true, decide_eq_true_eq]
  split
  next hlen => exact ⟨fun _ => hlen, fun _ => rfl⟩
  next hlen => exact ⟨fun hno => (nomatch hno), fun hyes => absurd hyes hlen⟩

theorem mem_utf8 {text : String} (hc : c ∈ text.toList) (hbyte : String.utf8EncodeChar c = [byte]) :
    byte ∈ utf8 text := by
  have hall : ∀ cs : List Char, c ∈ cs → byte ∈ utf8 (.ofList cs) := by
    intro cs hc
    induction cs with
    | nil => cases hc
    | cons d cs ih =>
      rw [utf8_cons]
      rcases List.mem_cons.1 hc with rfl | hc
      · rw [hbyte]
        exact List.mem_append_left _ (List.mem_singleton_self _)
      · exact List.mem_append_right _ (ih hc)
  have hm := hall text.toList hc
  rwa [String.ofList_toList] at hm

set_option maxRecDepth 4000 in
theorem mem_utf8_playerSaveName (h : isPlayerSaveName name = true) (hb : byte ∈ utf8 name) :
    isAsciiHexdigit byte = true ∨ byte ∈ utf8 "_dps.sav" := by
  obtain ⟨stem, -, hhex, -, -, hname⟩ := isPlayerSaveName_cases h
  rw [List.all_eq_true] at hhex
  have hsub : ∀ byte ∈ utf8 ".sav", byte ∈ utf8 "_dps.sav" := by decide
  rcases hname with hname | hname
  · rw [hname] at hb
    exact (List.mem_append.1 hb).imp (hhex byte) fun hm => hm
  · rw [hname] at hb
    exact (List.mem_append.1 hb).imp (hhex byte) (hsub byte)

theorem not_mem_playerSaveName (h : isPlayerSaveName name = true)
    (hother : isAsciiHexdigit byte = false ∧ byte ∉ utf8 "_dps.sav") : byte ∉ utf8 name := by
  intro hb
  rcases mem_utf8_playerSaveName h hb with hhex | hm
  · rw [hother.1] at hhex
    cases hhex
  · exact hother.2 hm

theorem not_mem_toList_playerSaveName (h : isPlayerSaveName name = true) :
    '/' ∉ name.toList ∧ '\\' ∉ name.toList := by
  constructor
  · intro hc
    have hslash : (47 : UInt8) ∈ utf8 name := mem_utf8 hc (by decide)
    exact not_mem_playerSaveName h (by decide) hslash
  · intro hc
    have hbackslash : (92 : UInt8) ∈ utf8 name := mem_utf8 hc (by decide)
    exact not_mem_playerSaveName h (by decide) hbackslash

theorem playerName_players (h : isPlayerSaveName name = true) :
    playerName ("Players/" ++ name) = some name := by
  have hdirectory : "Players/".toList = "Players".toList ++ ['/'] := by decide
  have hno : '/' ∉ "Players".toList := by decide
  have hsplit : splitOn '/' ("Players/" ++ name) = ["Players", name] := by
    unfold splitOn
    rw [String.toList_append, hdirectory, List.append_assoc, List.singleton_append,
      List.splitOn_append_cons_self_of_not_mem hno,
      List.splitOn_eq_singleton (not_mem_toList_playerSaveName h).1, List.map_cons,
        List.map_singleton,
      String.ofList_toList, String.ofList_toList]
  simp [playerName, hsplit]

def worldRole (path : String) : Option SaveFileRole :=
  if path = "Level.sav" then some .level
  else if path = "LevelMeta.sav" then some .levelMeta
  else if path = "WorldOption.sav" then some .worldOption
  else none

theorem worldRole_cases (h : worldRole path = some role) :
    path = "Level.sav" ∧ role = .level ∨ path = "LevelMeta.sav" ∧ role = .levelMeta ∨
      path = "WorldOption.sav" ∧ role = .worldOption := by
  unfold worldRole at h
  split at h
  next he => exact .inl ⟨he, (Option.some.inj h).symm⟩
  split at h
  next he => exact .inr (.inl ⟨he, (Option.some.inj h).symm⟩)
  split at h
  next he => exact .inr (.inr ⟨he, (Option.some.inj h).symm⟩)
  cases h

theorem playerName_of_worldRole (h : worldRole path = some role) : playerName path = none := by
  rcases worldRole_cases h with ⟨rfl, -⟩ | ⟨rfl, -⟩ | ⟨rfl, -⟩
  · decide
  · decide
  · decide

/-- A file that the lister lets through: one of the world itself, or a player save. -/
inductive ListedFile (file : RemoteSaveFile) : Prop
  | world (hrole : worldRole file.relativePath = some role) (hlimit : file.limit = maxLevelBytes)
      (hsize : file.size ≤ file.limit)
  | player (hname : isPlayerSaveName name = true) (hpath : file.relativePath = "Players/" ++ name)
      (hlimit : file.limit = maxPlayerBytes) (hsize : file.size ≤ file.limit)

theorem ListedFile.size_le (h : ListedFile file) : file.size ≤ file.limit := by
  cases h with
  | world _ _ hsize => exact hsize
  | player _ _ _ hsize => exact hsize

theorem ListedFile.limit_lt (h : ListedFile file) : file.limit < 2 ^ 32 := by
  cases h with
  | world _ hlimit =>
    rw [hlimit]
    decide
  | player _ _ hlimit =>
    rw [hlimit]
    decide

/-- What the lister promises of its result. -/
structure Listing (files : List RemoteSaveFile) : Prop where
  listed : ∀ file ∈ files, ListedFile file
  sorted : files.Pairwise (·.relativePath ≤ ·.relativePath)
  level : ∃ file ∈ files, file.relativePath = "Level.sav"
  total : (files.map (·.size)).sum ≤ maxTotalBytes

theorem pushRemoteFile_eq_ok (h : pushRemoteFile path remotePath stat limit files = .ok files') :
    ∃ file, files' = files ++ [file] ∧ file.relativePath = path ∧ file.limit = limit ∧
      file.size ≤ limit := by
  unfold pushRemoteFile at h
  split at h
  · cases h
  simp only at h
  split at h
  · cases h
  next hle =>
  obtain rfl := Except.ok.inj h
  exact ⟨_, rfl, rfl, rfl, not_lt.1 hle⟩

theorem pushNamedFile_listed (hname : worldRole name = some role)
    (h : pushNamedFile remote worldRoot files name = .ok files')
    (hall : ∀ file ∈ files, ListedFile file) :
    ∀ file ∈ files', ListedFile file := by
  unfold pushNamedFile at h
  split at h
  · obtain ⟨file, rfl, rfl, hlimit, hsize⟩ := pushRemoteFile_eq_ok h
    exact List.forall_mem_append.2
      ⟨hall, List.forall_mem_singleton.2 (.world hname hlimit (hsize.trans_eq hlimit.symm))⟩
  · obtain rfl := Except.ok.inj h
    exact hall

theorem pushNamedFiles_listed {names : List String}
    (hnames : ∀ name ∈ names, (worldRole name).isSome = true)
    (h : names.foldlM (pushNamedFile remote worldRoot) files = .ok files')
    (hall : ∀ file ∈ files, ListedFile file) : ∀ file ∈ files', ListedFile file := by
  induction names generalizing files with
  | nil =>
    obtain rfl := Except.ok.inj h
    exact hall
  | cons name names ih =>
    obtain ⟨hname, hnames⟩ := List.forall_mem_cons.1 hnames
    obtain ⟨role, hrole⟩ := Option.isSome_iff_exists.1 hname
    rw [List.foldlM_cons] at h
    obtain ⟨files₁, hfirst, h⟩ := bind_eq_ok.1 h
    exact ih hnames h (pushNamedFile_listed hrole hfirst hall)

theorem pushPlayerFiles_listed (h : pushPlayerFiles playersRoot entries files = .ok files')
    (hall : ∀ file ∈ files, ListedFile file) :
    (∀ file ∈ files', ListedFile file) ∧ files ⊆ files' := by
  induction entries generalizing files with
  | nil =>
    obtain rfl := Except.ok.inj h
    exact ⟨hall, List.Subset.refl _⟩
  | cons entry entries ih =>
    obtain ⟨name, stat⟩ := entry
    unfold pushPlayerFiles at h
    split at h
    · exact ih h hall
    split at h
    · cases h
    split at h
    next hname =>
      obtain ⟨files₁, hfirst, h⟩ := bind_eq_ok.1 h
      obtain ⟨file, rfl, hpath, hlimit, hsize⟩ := pushRemoteFile_eq_ok hfirst
      obtain ⟨hlisted, hsub⟩ := ih h (List.forall_mem_append.2 ⟨hall, List.forall_mem_singleton.2
        (.player hname hpath hlimit (hsize.trans_eq hlimit.symm))⟩)
      exact ⟨hlisted, fun file hm => hsub (List.mem_append_left _ hm)⟩
    next => exact ih h hall

theorem addSize_eq_ok (h : addSize sum file = .ok sum') :
    sum' = sum + file.size ∧ sum' ≤ maxTotalBytes := by
  unfold addSize at h
  split at h
  next total hsome =>
    obtain rfl := Except.ok.inj h
    obtain ⟨hadd, hle⟩ := Option.filter_eq_some_iff.1 hsome
    exact ⟨(checkedAdd_eq_some.1 hadd).2.symm, of_decide_eq_true hle⟩
  next => cases h

theorem addSize_fold {files : List RemoteSaveFile} (h : files.foldlM addSize sum = .ok sum') :
    sum' = sum + (files.map (·.size)).sum ∧ (sum ≤ maxTotalBytes → sum' ≤ maxTotalBytes) := by
  induction files generalizing sum with
  | nil =>
    obtain rfl := Except.ok.inj h
    exact ⟨rfl, fun hsum => hsum⟩
  | cons file files ih =>
    rw [List.foldlM_cons] at h
    obtain ⟨sum₁, hfirst, h⟩ := bind_eq_ok.1 h
    obtain ⟨rfl, hle⟩ := addSize_eq_ok hfirst
    obtain ⟨rfl, hrest⟩ := ih h
    exact ⟨by rw [List.map_cons, List.sum_cons, Nat.add_assoc], fun _ => hrest hle⟩

/-- Whatever a server answers, a listing is of save files that are each within their limit and
together within that of a save set, with the level among them. -/
theorem listSaveFiles_listing (h : listSaveFiles remote worldRoot = .ok files) : Listing files := by
  obtain ⟨named, hnamed, h⟩ := bind_eq_ok.1 h
  have hnamedListed : ∀ file ∈ named, ListedFile file :=
    pushNamedFiles_listed (by decide) hnamed fun _ hm => nomatch hm
  simp only at h
  split at h
  · cases h
  next hlevel =>
  obtain ⟨found, hfound, h⟩ := bind_eq_ok.1 h
  have hall : (∀ file ∈ found, ListedFile file) ∧ named ⊆ found := by
    unfold pushPlayers at hfound
    split at hfound
    · split at hfound
      · cases hfound
      · exact pushPlayerFiles_listed hfound hnamedListed
    · obtain rfl := Except.ok.inj hfound
      exact ⟨hnamedListed, List.Subset.refl _⟩
  obtain ⟨total, htotal, h⟩ := bind_eq_ok.1 h
  split at h
  · cases h
  obtain rfl := Except.ok.inj h
  constructor
  case listed => exact fun file hm => hall.1 file ((mem_sortBy _).1 hm)
  case sorted => exact sortBy_pairwise _ found
  case level =>
    obtain ⟨file, hm, hpath⟩ := List.any_eq_true.1 (Bool.not_eq_false _ |>.mp hlevel)
    exact ⟨file, (mem_sortBy _).2 (hall.2 hm), of_decide_eq_true hpath⟩
  case total =>
    obtain ⟨rfl, hle⟩ := addSize_fold htotal
    rw [Nat.zero_add] at hle
    exact hle (Nat.zero_le _)

/-- What is listed is a file of the world itself or a player save, never both. A player save has an
id of 8 to 64 hexadecimal digits, and the importer takes those whose id has 32. -/
theorem listed_players_imported (h : listSaveFiles remote worldRoot = .ok files)
    (hfile : file ∈ files) :
    file.size ≤ file.limit ∧ file.limit < 2 ^ 32 ∧
      ((∃ role, worldRole file.relativePath = some role ∧ playerName file.relativePath = none) ∨
        ∃ name stem, file.relativePath = "Players/" ++ name ∧
          playerName file.relativePath = some name ∧
          playerStem name = some stem ∧ stem.all isAsciiHexdigit = true ∧
          8 ≤ stem.length ∧ stem.length ≤ 64 ∧
          ((playerSaveRole name).isSome = true ↔ stem.length = 32)) := by
  have hlisted := (listSaveFiles_listing h).listed file hfile
  refine ⟨hlisted.size_le, hlisted.limit_lt, ?_⟩
  cases hlisted with
  | world hrole => exact .inl ⟨_, hrole, playerName_of_worldRole hrole⟩
  | @player name hname hpath =>
    obtain ⟨stem, hstem, hdigits, hshort, hlong, -⟩ := isPlayerSaveName_cases hname
    refine .inr ⟨name, stem, hpath, ?_, hstem, hdigits, hshort, hlong, ?_⟩
    · rw [hpath]
      exact playerName_players hname
    · rw [playerSaveRole_isSome_iff hname, hstem, Option.map_some, Option.some.injEq]

theorem ListedFile.zero_not_mem (h : ListedFile file) : 0 ∉ utf8 file.relativePath := by
  cases h with
  | world hrole =>
    rcases worldRole_cases hrole with ⟨hpath, -⟩ | ⟨hpath, -⟩ | ⟨hpath, -⟩
    all_goals
      rw [hpath]
      decide
  | player hname hpath =>
    rw [hpath, utf8_append]
    intro hm
    rcases List.mem_append.1 hm with hm | hm
    · exact absurd hm (by decide)
    · exact not_mem_playerSaveName hname (by decide) hm

def RemoteSaveFile.revised (file : RemoteSaveFile) : String × Nat × Nat :=
  (file.relativePath, file.size, file.mtime)

def encodeRevised (entry : String × Nat × Nat) : Option (List UInt8) :=
  both (encodeEnded 0 (utf8 entry.1)) (both (encodeNat 8 entry.2.1) (encodeNat 8 entry.2.2))

theorem delimited_encodeRevised : Delimited encodeRevised := by
  rintro ⟨path, size, mtime⟩ ⟨path', size', mtime'⟩ p q x y ha hb hstream
  obtain ⟨p₁, p₂, hpath, htail, rfl⟩ := both_eq_some.1 ha
  obtain ⟨p₂, p₃, hsize, hmtime, rfl⟩ := both_eq_some.1 htail
  obtain ⟨q₁, q₂, hpath', htail', rfl⟩ := both_eq_some.1 hb
  obtain ⟨q₂, q₃, hsize', hmtime', rfl⟩ := both_eq_some.1 htail'
  simp only [List.append_assoc] at hstream
  obtain ⟨hpaths, hstream⟩ := delimited_encodeEnded 0 hpath hpath' hstream
  obtain ⟨rfl, hstream⟩ := delimited_encodeNat 8 hsize hsize' hstream
  obtain ⟨rfl, hrest⟩ := delimited_encodeNat 8 hmtime hmtime' hstream
  obtain rfl := utf8_inj.1 hpaths
  exact ⟨rfl, hrest⟩

theorem encodeRevised_ne_nil (entry : String × Nat × Nat) : encodeRevised entry ≠ some [] := by
  intro h
  obtain ⟨p, q, hpath, -, hnil⟩ := both_eq_some.1 h
  obtain ⟨-, rfl⟩ := encodeEnded_eq_some.1 hpath
  obtain ⟨hnil, -⟩ := List.append_eq_nil_iff.1 hnil
  exact absurd (List.append_eq_nil_iff.1 hnil).2 (List.cons_ne_nil 0 [])

theorem ListedFile.encodeRevised_eq (h : ListedFile file) (hmtime : file.mtime < 2 ^ 64) :
    encodeRevised file.revised =
      some (utf8 file.relativePath ++ [0] ++ leBytes 8 file.size ++ leBytes 8 file.mtime) := by
  have hsize : file.size < 256 ^ 8 := (h.size_le.trans_lt h.limit_lt).trans (by decide)
  rw [List.append_assoc]
  exact both_eq_some.2 ⟨_, _, encodeEnded_eq_some.2 ⟨h.zero_not_mem, rfl⟩, both_eq_some.2 ⟨_, _,
    encodeNat_eq_some.2 ⟨hsize, rfl⟩, encodeNat_eq_some.2 ⟨hmtime, rfl⟩, rfl⟩, rfl⟩

theorem encodeEach_revisionBytes (hlisted : ∀ file ∈ files, ListedFile file)
    (hmtime : ∀ file ∈ files, file.mtime < 2 ^ 64) :
    encodeEach encodeRevised (files.map RemoteSaveFile.revised) = some (revisionBytes files) := by
  induction files with
  | nil => rfl
  | cons file files ih =>
    obtain ⟨hfile, hlisted⟩ := List.forall_mem_cons.1 hlisted
    obtain ⟨htime, hmtime⟩ := List.forall_mem_cons.1 hmtime
    rw [revisionBytes, List.flatMap_cons]
    exact both_eq_some.2 ⟨_, _, hfile.encodeRevised_eq htime, ih hlisted hmtime, rfl⟩

/-- What is digested for a revision tells the paths, the sizes and the times of all files of a
listing. -/
theorem revision_bytes_tell (h : listSaveFiles remote worldRoot = .ok files)
    (h' : listSaveFiles remote' worldRoot' = .ok files')
    (hmtime : ∀ file ∈ files, file.mtime < 2 ^ 64)
    (hmtime' : ∀ file ∈ files', file.mtime < 2 ^ 64) :
    revisionBytes files = revisionBytes files' ↔
      files.map RemoteSaveFile.revised = files'.map RemoteSaveFile.revised := by
  have hfiles := encodeEach_revisionBytes (listSaveFiles_listing h).listed hmtime
  have hfiles' := encodeEach_revisionBytes (listSaveFiles_listing h').listed hmtime'
  constructor
  · intro heq
    rw [← heq] at hfiles'
    exact delimited_encodeRevised.each_all encodeRevised_ne_nil hfiles hfiles'
  · intro heq
    rw [heq, hfiles'] at hfiles
    exact Option.some.inj hfiles.symm

/-- A server with a level and the save of one player. -/
def exampleRemote : Remote where
  stat path := if path = "w/Level.sav" then some ⟨.file, some 9, some 1⟩ else none
  readdir path :=
    if path = "w/Players" then some [(some "00000001.sav", ⟨.file, some 3, none⟩),
      (some "notes.txt", ⟨.file, none, none⟩)]
    else none
  content _ := none

theorem listSaveFiles_exampleRemote : listSaveFiles exampleRemote "w" = .ok
    [⟨"Level.sav", "w/Level.sav", 9, 1, maxLevelBytes⟩,
      ⟨"Players/00000001.sav", "w/Players/00000001.sav", 3, 0, maxPlayerBytes⟩] := by
  decide

theorem listSaveFiles_listing_example : ∃ files, listSaveFiles exampleRemote "w" = .ok files ∧
    files.map RemoteSaveFile.relativePath = ["Level.sav", "Players/00000001.sav"] ∧ Listing files :=
  ⟨_, listSaveFiles_exampleRemote, rfl, listSaveFiles_listing listSaveFiles_exampleRemote⟩

/-- A player save with a short id is listed, and is none to the importer. -/
theorem listed_players_imported_short : ∃ file files, listSaveFiles exampleRemote "w" = .ok files ∧
    file ∈ files ∧
    file.relativePath = "Players/00000001.sav" ∧ file.size ≤ file.limit ∧
      playerSaveRole "00000001.sav" = none :=
  ⟨_, _, listSaveFiles_exampleRemote, List.mem_cons_of_mem _ List.mem_cons_self, rfl,
    (listed_players_imported listSaveFiles_exampleRemote
      (List.mem_cons_of_mem _ List.mem_cons_self)).1, by decide⟩

/-- The same server after its level was written once more. -/
def touchedRemote : Remote :=
  { exampleRemote with
    stat := fun path => (exampleRemote.stat path).map fun stat => { stat with mtime := some 2 } }

theorem revision_bytes_tell_touched : ∃ files files', listSaveFiles exampleRemote "w" = .ok files ∧
    listSaveFiles touchedRemote "w" = .ok files' ∧ revisionBytes files ≠ revisionBytes files' := by
  have htouched : listSaveFiles touchedRemote "w" = .ok
      [⟨"Level.sav", "w/Level.sav", 9, 2, maxLevelBytes⟩,
        ⟨"Players/00000001.sav", "w/Players/00000001.sav", 3, 0, maxPlayerBytes⟩] := by
    decide
  refine ⟨_, _, listSaveFiles_exampleRemote, htouched, ?_⟩
  rw [Ne, revision_bytes_tell listSaveFiles_exampleRemote htouched (by decide) (by decide)]
  decide

end PalBeacon.SftpSync
