import LanguageDetection.Command.Line
import LanguageDetection.Proofs.Decimal.Numeral
import Mathlib

/-!
Command lines written out: the options of a request, in any order, and its paths are read back as the
request.
-/

namespace LanguageDetection.Command

open LanguageDetection.Files

structure Given where
  name : String
  value : Option String
  deriving Repr, DecidableEq

namespace Given

/-- An option as one argument, with its value after an equals sign. -/
def spelling (given : Given) : String :=
  "--" ++ given.name ++ match given.value with
    | none => ""
    | some value => "=" ++ value

def note (given : Given) : String × String := (given.name, given.value.getD "")

/-- Whether an option is one of a grammar, and has a value that the grammar accepts. -/
structure Suits (grammar : Grammar) (given : Given) : Prop where
  nonempty : given.name ≠ ""
  noEquals : '=' ∉ given.name.toList
  known : ∃ switch, grammar.switches.find? (·.long == given.name) = some switch ∧
    match given.value with
    | none => switch.form = .flag
    | some value => switch.form.takesValue = true ∧ switch.check value = .ok ()

end Given

section

variable {grammar : Grammar} {given : Given} {noted : List (String × String)}

theorem accept_eq {switch : Switch} {value : String} (new : switch.long ∉ noted.map Prod.fst)
    (valid : switch.check value = .ok ()) :
    Arguments.accept { given := noted } switch value =
      .ok { given := noted ++ [(switch.long, value)] } := by
  have unknown : Arguments.has { given := noted } switch.long = false := by
    rw [Arguments.has, List.any_eq_false]
    rintro entry member isName
    exact new (List.mem_map.mpr ⟨entry, member, eq_of_beq isName⟩)
  rw [Arguments.accept, unknown, valid]
  rfl

def Given.attached (given : Given) : List Char :=
  match given.value with
  | none => []
  | some value => '=' :: value.toList

theorem Given.toList_spelling :
    given.spelling.toList = '-' :: '-' :: (given.name.toList ++ given.attached) := by
  have dashes : "--".toList = ['-', '-'] := by decide
  have equals : "=".toList = ['='] := by decide
  rw [spelling, attached]
  cases given.value <;> simp [String.toList_append, dashes, equals]

theorem takeLong_eq (suits : given.Suits grammar) (new : given.name ∉ noted.map Prod.fst) :
    Arguments.takeLong grammar { given := noted } (given.name.toList ++ given.attached) =
      .ok { given := noted ++ [given.note] } := by
  obtain ⟨-, noEquals, switch, found, valid⟩ := suits
  have long : switch.long = given.name := by
    have isNamed := List.find?_some found
    exact eq_of_beq isNamed
  have name : (given.name.toList ++ given.attached).takeWhile (· != '=') = given.name.toList := by
    have before : ∀ c ∈ given.name.toList, (c != '=') = true := by
      intro c member
      rw [bne_iff_ne]
      rintro rfl
      exact noEquals member
    rw [List.takeWhile_append_of_pos before, Given.attached]
    cases given.value <;> simp
  have accepted (value : String) (valid : switch.check value = .ok ()) :
      Arguments.accept { given := noted } switch value =
        .ok { given := noted ++ [(given.name, value)] } := by
    rw [accept_eq (long ▸ new) valid, long]
  rw [Arguments.takeLong, name, List.drop_left]
  simp only [String.ofList_toList, found, Given.attached, Given.note]
  cases asked : given.value with
  | none =>
      rw [asked] at valid
      simp only [valid, Form.takesValue, Arguments.raise]
      have flag : switch.check "" = .ok () := by
        rw [Switch.check, valid]
      exact accepted "" flag
  | some value =>
      rw [asked] at valid
      obtain ⟨takesValue, valid⟩ := valid
      simp only [takesValue, Arguments.attach, String.ofList_toList]
      exact accepted value valid

theorem take_spelling (suits : given.Suits grammar) (new : given.name ∉ noted.map Prod.fst) :
    Arguments.take grammar { given := noted } given.spelling =
      .ok { given := noted ++ [given.note] } := by
  have taken : Arguments.takeOption? grammar { given := noted } given.spelling =
      some (Arguments.takeLong grammar { given := noted }
        (given.name.toList ++ given.attached)) := by
    rw [Arguments.takeOption?, Given.toList_spelling]
    cases name : given.name.toList with
    | nil => exact absurd (String.toList_eq_nil_iff.mp name) suits.nonempty
    | cons c rest => rfl
  rw [Arguments.take, if_neg Bool.false_ne_true, taken]
  exact takeLong_eq suits new

/-- Options whose names differ are taken one by one, in any order. -/
theorem foldlM_spellings {options : List Given} (suit : ∀ given ∈ options, given.Suits grammar)
    (distinct : (noted.map Prod.fst ++ options.map (·.name)).Nodup) :
    (options.map Given.spelling).foldlM (Arguments.take grammar) { given := noted } =
      .ok { given := noted ++ options.map Given.note } := by
  -- After any options that are noted already, which have other names.
  induction options generalizing noted with
  | nil =>
      rw [List.map_nil, List.map_nil, List.append_nil]
      rfl
  | cons given rest ih =>
      obtain ⟨first, others⟩ := List.forall_mem_cons.mp suit
      have new : given.name ∉ noted.map Prod.fst := by
        intro member
        exact (List.nodup_append.mp distinct).2.2 given.name member given.name
          List.mem_cons_self rfl
      rw [List.map_cons, List.foldlM_cons, take_spelling first new]
      have later : (rest.map Given.spelling).foldlM (Arguments.take grammar)
          { given := noted ++ [given.note] } =
            .ok { given := noted ++ [given.note] ++ rest.map Given.note } := by
        apply ih others
        rw [List.map_append, List.append_assoc]
        exact distinct
      rw [List.append_assoc] at later
      exact later

theorem foldlM_paths (pathsTaken : grammar.takesPaths = true) (texts taken : List String) :
    texts.foldlM (Arguments.take grammar)
        { given := noted, pending := .paths taken, isPlain := true } =
      .ok { given := noted, pending := .paths (texts.reverse ++ taken), isPlain := true } := by
  induction texts generalizing taken with
  | nil => rfl
  | cons text rest ih =>
      have one : Arguments.take grammar
          { given := noted, pending := .paths taken, isPlain := true } text =
            .ok { given := noted, pending := .paths (text :: taken), isPlain := true } := by
        rw [Arguments.take, if_pos rfl, Arguments.takePath, pathsTaken]
        rfl
      rw [List.foldlM_cons, one, List.reverse_cons, List.append_assoc]
      exact ih (text :: taken)

section

variable {options : List Given}

theorem read_options (suit : ∀ given ∈ options, given.Suits grammar)
    (distinct : (options.map (·.name)).Nodup) :
    Arguments.read grammar (options.map Given.spelling) =
      .ok { given := options.map Given.note } := by
  have taken : (options.map Given.spelling).foldlM (Arguments.take grammar) {} =
      .ok { given := [] ++ options.map Given.note } := foldlM_spellings suit distinct
  rw [Arguments.read, taken]
  rfl

theorem foldlM_separated (pathsTaken : grammar.takesPaths = true) {paths : List Path}
    (nonempty : "" ∉ paths) :
    ("--" :: paths).foldlM (Arguments.take grammar) { given := noted } >>= Arguments.settle =
      .ok { given := noted, paths, isPlain := true } := by
  have separated : Arguments.take grammar { given := noted } "--" =
      .ok { given := noted, isPlain := true } := by
    rfl
  rw [List.foldlM_cons, separated]
  cases paths with
  | nil => rfl
  | cons path rest =>
      have first : Arguments.take grammar { given := noted, isPlain := true } path =
          .ok { given := noted, pending := .paths [path], isPlain := true } := by
        rw [Arguments.take, if_pos rfl, Arguments.takePath, pathsTaken]
        rfl
      have settled : Arguments.settle
          { given := noted, pending := .paths (rest.reverse ++ [path]), isPlain := true } =
            .ok { given := noted, paths := path :: rest, isPlain := true } := by
        have none : (rest.reverse ++ [path]).contains "" = false := by
          rw [← Bool.not_eq_true, List.contains_iff_mem, ← List.reverse_cons, List.mem_reverse]
          exact nonempty
        simp only [Arguments.settle, none]
        simp
      simp only [Bind.bind, Except.bind, List.foldlM_cons, first]
      rw [foldlM_paths pathsTaken rest [path]]
      exact settled

/-- Options, and after a separator paths that are not empty. -/
theorem read_commandLine (suit : ∀ given ∈ options, given.Suits grammar)
    (distinct : (options.map (·.name)).Nodup) (pathsTaken : grammar.takesPaths = true)
    {paths : List Path} (nonempty : "" ∉ paths) :
    Arguments.read grammar (options.map Given.spelling ++ "--" :: paths) =
      .ok { given := options.map Given.note, paths, isPlain := true } := by
  have taken : (options.map Given.spelling).foldlM (Arguments.take grammar) {} =
      .ok { given := [] ++ options.map Given.note } := foldlM_spellings suit distinct
  rw [Arguments.read, List.foldlM_append, taken]
  exact foldlM_separated pathsTaken nonempty

end

end

namespace Given

/-- An option that is given if there is a value for it. -/
def ofValue (name : String) (value : Option String) : List Given :=
  value.toList.map fun value => ⟨name, some value⟩

def ofFlag (name : String) (isGiven : Bool) : List Given :=
  if isGiven then [⟨name, none⟩] else []

section

variable {grammar : Grammar} {switch : Switch} {name : String}

@[simp] theorem note_mem_ofValue {other value : String} {value' : Option String} :
    (other, value) ∈ (ofValue name value').map note ↔ other = name ∧ value' = some value := by
  cases value' <;> simp [ofValue, note, eq_comm]

@[simp] theorem note_mem_ofFlag {other value : String} {isGiven : Bool} :
    (other, value) ∈ (ofFlag name isGiven).map note ↔
      other = name ∧ value = "" ∧ isGiven = true := by
  cases isGiven <;> simp [ofFlag, note]

theorem names_ofValue (name : String) (value : Option String) :
    ((ofValue name value).map (·.name)).Sublist [name] := by
  cases value with
  | none => exact List.nil_sublist _
  | some value => exact List.Sublist.refl _

theorem names_ofFlag (name : String) (isGiven : Bool) :
    ((ofFlag name isGiven).map (·.name)).Sublist [name] := by
  cases isGiven with
  | false => exact List.nil_sublist _
  | true => exact List.Sublist.refl _

theorem suits_ofValue {value : Option String}
    (found : grammar.switches.find? (·.long == name) = some switch) (nonempty : name ≠ "")
    (noEquals : '=' ∉ name.toList) (takesValue : switch.form.takesValue = true)
    (valid : ∀ text ∈ value, switch.check text = .ok ()) :
    ∀ given ∈ ofValue name value, given.Suits grammar := by
  intro given member
  obtain ⟨text, isValue, rfl⟩ := List.mem_map.mp member
  exact ⟨nonempty, noEquals, switch, found, takesValue, valid text (Option.mem_toList.mp isValue)⟩

theorem suits_ofFlag {isGiven : Bool}
    (found : grammar.switches.find? (·.long == name) = some switch) (nonempty : name ≠ "")
    (noEquals : '=' ∉ name.toList) (isFlag : switch.form = .flag) :
    ∀ given ∈ ofFlag name isGiven, given.Suits grammar := by
  intro given member
  unfold ofFlag at member
  split at member
  · rw [List.mem_singleton.mp member]
    exact ⟨nonempty, noEquals, switch, found, isFlag⟩
  · contradiction

end

end Given

def OutputFormat.name : OutputFormat → String
  | .text => "text"
  | .json => "json"

section

variable {switch : Switch}

theorem checks_format (isFormat : switch.form = .format) (format : OutputFormat) :
    ∀ text ∈ some format.name, switch.check text = .ok () := by
  rintro text ⟨⟩
  rw [Switch.check, isFormat]
  cases format <;> rfl

theorem checks_profile (isProfile : switch.form = .profile) (profile : Option Profile) :
    ∀ text ∈ profile.map Profile.name, switch.check text = .ok () := by
  intro text given
  obtain ⟨profile, -, rfl⟩ := Option.map_eq_some_iff.mp given
  rw [Switch.check, isProfile]
  cases profile <;> rfl

theorem checks_path (isPath : switch.form = .path) {path : Option Path} (nonempty : path ≠ some "") :
    ∀ text ∈ path, switch.check text = .ok () := by
  rintro text given
  rw [Switch.check, isPath]
  refine if_neg fun empty => nonempty ?_
  rw [Option.mem_def.mp given, String.isEmpty_iff.mp empty]

theorem readBytes_toString (n : UInt64) : readBytes (toString n.toNat) = .ok n := by
  have whole := Decimal.isWhole_toDigits n.toNat
  have text : (toString n.toNat).toList = Nat.toDigits 10 n.toNat := by
    rw [Nat.toString_eq_ofList_toDigits, String.toList_ofList]
  have value : (Nat.toDigits 10 n.toNat).foldl (fun n c => n * 10 + (c.toNat - 48)) 0 = n.toNat := by
    refine Eq.trans ?_ (Nat.ofDigitChars_ten_toDigits (n := n.toNat))
    simp only [Nat.ofDigitChars, Nat.mul_comm]
    rfl
  have nonempty : (toString n.toNat).isEmpty = false := by
    rw [← Bool.not_eq_true, String.isEmpty_iff, ← String.toList_eq_nil_iff, text]
    exact whole.nonempty
  have small : n.toNat < UInt64.size := n.toNat_lt
  unfold readBytes
  rw [text, nonempty]
  dsimp only
  split
  · contradiction
  · split
    · rename_i rest isDigits
      have isDigit := whole.areDigits '+' (isDigits ▸ List.mem_cons_self)
      contradiction
    · simpa [whole.nonempty, value, small] using whole.areDigits

theorem checks_number (isNumber : switch.form = .number) (number : Option UInt64) :
    ∀ text ∈ number.map fun n => toString n.toNat, switch.check text = .ok () := by
  intro text given
  obtain ⟨n, -, rfl⟩ := Option.map_eq_some_iff.mp given
  rw [Switch.check, isNumber]
  simp only [readBytes_toString]

end

namespace DetectRequest

def options (request : DetectRequest) (isVerbose : Bool) : List Given :=
  Given.ofValue "filename" request.filename
    ++ Given.ofFlag "no-extension-hint" request.noExtensionHint
    ++ Given.ofValue "profile" (request.profile.map Profile.name)
    ++ Given.ofValue "format" (some request.format.name)
    ++ Given.ofFlag "explain" request.explain
    ++ Given.ofValue "config" request.config
    ++ Given.ofValue "max-file-bytes" (request.maxFileBytes.map fun most => toString most.toNat)
    ++ Given.ofFlag "no-gitignore" request.noGitignore
    ++ Given.ofFlag "follow-symlinks" request.followSymlinks
    ++ Given.ofFlag "verbose" isVerbose

variable {request : DetectRequest} {isVerbose : Bool}

theorem suits_of_mem_options (hasConfig : request.config ≠ some "") :
    ∀ given ∈ request.options isVerbose, given.Suits detectGrammar := by
  simp only [options, List.forall_mem_append, and_assoc]
  exact ⟨Given.suits_ofValue rfl (by decide) (by decide) rfl fun _ _ => rfl,
    Given.suits_ofFlag rfl (by decide) (by decide) rfl,
    Given.suits_ofValue rfl (by decide) (by decide) rfl (checks_profile rfl request.profile),
    Given.suits_ofValue rfl (by decide) (by decide) rfl (checks_format rfl request.format),
    Given.suits_ofFlag rfl (by decide) (by decide) rfl,
    Given.suits_ofValue rfl (by decide) (by decide) rfl (checks_path rfl hasConfig),
    Given.suits_ofValue rfl (by decide) (by decide) rfl (checks_number rfl request.maxFileBytes),
    Given.suits_ofFlag rfl (by decide) (by decide) rfl,
    Given.suits_ofFlag rfl (by decide) (by decide) rfl,
    Given.suits_ofFlag rfl (by decide) (by decide) rfl⟩

theorem nodup_options : ((request.options isVerbose).map (·.name)).Nodup := by
  have distinct : ["filename", "no-extension-hint", "profile", "format", "explain", "config",
      "max-file-bytes", "no-gitignore", "follow-symlinks", "verbose"].Nodup := by
    decide
  refine List.Nodup.sublist ?_ distinct
  simp only [options, List.map_append, List.append_assoc]
  exact (Given.names_ofValue _ _).append <| (Given.names_ofFlag _ _).append <|
    (Given.names_ofValue _ _).append <| (Given.names_ofValue _ _).append <|
    (Given.names_ofFlag _ _).append <| (Given.names_ofValue _ _).append <|
    (Given.names_ofValue _ _).append <| (Given.names_ofFlag _ _).append <|
    (Given.names_ofFlag _ _).append (Given.names_ofFlag _ _)

end DetectRequest

namespace LanguagesRequest

def options (request : LanguagesRequest) (isVerbose : Bool) : List Given :=
  Given.ofValue "format" (some request.format.name)
    ++ Given.ofValue "profile" (request.profile.map Profile.name)
    ++ Given.ofValue "config" request.config
    ++ Given.ofFlag "verbose" isVerbose

variable {request : LanguagesRequest} {isVerbose : Bool}

theorem suits_of_mem_options (hasConfig : request.config ≠ some "") :
    ∀ given ∈ request.options isVerbose, given.Suits languagesGrammar := by
  simp only [options, List.forall_mem_append, and_assoc]
  exact ⟨Given.suits_ofValue rfl (by decide) (by decide) rfl (checks_format rfl request.format),
    Given.suits_ofValue rfl (by decide) (by decide) rfl (checks_profile rfl request.profile),
    Given.suits_ofValue rfl (by decide) (by decide) rfl (checks_path rfl hasConfig),
    Given.suits_ofFlag rfl (by decide) (by decide) rfl⟩

theorem nodup_options : ((request.options isVerbose).map (·.name)).Nodup := by
  have distinct : ["format", "profile", "config", "verbose"].Nodup := by
    decide
  refine List.Nodup.sublist ?_ distinct
  simp only [options, List.map_append, List.append_assoc]
  exact (Given.names_ofValue _ _).append <| (Given.names_ofValue _ _).append <|
    (Given.names_ofValue _ _).append (Given.names_ofFlag _ _)

end LanguagesRequest

theorem ofNames_profile (profile : Option Profile) :
    (profile.map Profile.name).bind Profile.ofName? = profile := by
  rcases profile with _ | _ | _ <;> rfl

theorem ofName_format (format : OutputFormat) :
    ((some format.name).bind OutputFormat.ofName?).getD .text = format := by
  cases format <;> rfl

theorem ofTexts_number (number : Option UInt64) :
    ((number.map fun n => toString n.toNat).bind fun text => (readBytes text).toOption) =
      number := by
  cases number with
  | none => rfl
  | some n =>
      simp only [Option.map_some, Option.bind_some, readBytes_toString]
      rfl

section

variable {entries : List (String × String)} {name : String}

theorem lookup_eq_some_iff_mem (distinct : (entries.map Prod.fst).Nodup) {value : String} :
    entries.lookup name = some value ↔ (name, value) ∈ entries := by
  induction entries with
  | nil => simp
  | cons entry rest ih =>
      obtain ⟨first, given⟩ := entry
      obtain ⟨new, distinct⟩ := List.nodup_cons.mp distinct
      rw [List.lookup_cons, List.mem_cons, Prod.mk.injEq]
      split
      · rename_i isFirst
        obtain rfl := eq_of_beq isFirst
        have absent : (name, value) ∉ rest :=
          fun member => new (List.mem_map.mpr ⟨_, member, rfl⟩)
        simp [absent, eq_comm]
      · rename_i other
        have different : name ≠ first := by
          rintro rfl
          exact absurd (beq_self_eq_true name) (by rw [other]; exact Bool.false_ne_true)
        rw [ih distinct]
        simp [different]

variable {options written : List Given} {paths : List Path} {isPlain : Bool}

def Arguments.ofGiven (options : List Given) (paths : List Path) (isPlain : Bool) : Arguments :=
  { given := options.map Given.note, paths, isPlain }

theorem value?_ofGiven (same : options.Perm written) (distinct : (written.map (·.name)).Nodup)
    {value : Option String}
    (given : ∀ text, (name, text) ∈ written.map Given.note ↔ value = some text) :
    (Arguments.ofGiven options paths isPlain).value? name = value := by
  have names : ((options.map Given.note).map Prod.fst).Nodup := by
    rw [List.map_map]
    exact (same.map (·.name)).nodup_iff.mpr distinct
  apply Option.ext
  intro text
  rw [← given]
  exact (lookup_eq_some_iff_mem names).trans (same.map Given.note).mem_iff

theorem has_ofGiven (same : options.Perm written) {isGiven : Bool}
    (given : (∃ text, (name, text) ∈ written.map Given.note) ↔ isGiven = true) :
    (Arguments.ofGiven options paths isPlain).has name = isGiven := by
  rw [Bool.eq_iff_iff, ← given, Arguments.has, List.any_eq_true]
  constructor
  · rintro ⟨⟨other, text⟩, member, isName⟩
    obtain rfl := eq_of_beq isName
    exact ⟨text, (same.map Given.note).mem_iff.mp member⟩
  · rintro ⟨text, member⟩
    exact ⟨(name, text), (same.map Given.note).mem_iff.mpr member, beq_self_eq_true name⟩

end

section

variable {options : List Given} {isVerbose : Bool}

theorem DetectRequest.ofArguments_ofGiven {request : DetectRequest}
    (same : options.Perm (request.options isVerbose)) :
    DetectRequest.ofArguments (.ofGiven options request.paths true) = request := by
  have asked (name : String) (value : Option String)
      (given : ∀ text, (name, text) ∈ (request.options isVerbose).map Given.note ↔
        value = some text) : (Arguments.ofGiven options request.paths true).value? name = value :=
    value?_ofGiven same nodup_options given
  have flag (name : String) (isGiven : Bool)
      (given : (∃ text, (name, text) ∈ (request.options isVerbose).map Given.note) ↔
        isGiven = true) : (Arguments.ofGiven options request.paths true).has name = isGiven :=
    has_ofGiven same given
  simp only [ofArguments, formatOf, profileOf,
    asked "filename" request.filename (by simp [DetectRequest.options]),
    asked "profile" (request.profile.map Profile.name) (by simp [DetectRequest.options]),
    asked "format" (some request.format.name) (by simp [DetectRequest.options]),
    asked "config" request.config (by simp [DetectRequest.options]),
    asked "max-file-bytes" (request.maxFileBytes.map fun most => toString most.toNat)
      (by simp [DetectRequest.options]),
    flag "no-extension-hint" request.noExtensionHint (by simp [DetectRequest.options]),
    flag "explain" request.explain (by simp [DetectRequest.options]),
    flag "no-gitignore" request.noGitignore (by simp [DetectRequest.options]),
    flag "follow-symlinks" request.followSymlinks (by simp [DetectRequest.options]),
    ofNames_profile, ofName_format, ofTexts_number]
  rfl

theorem LanguagesRequest.ofArguments_ofGiven {request : LanguagesRequest}
    (same : options.Perm (request.options isVerbose)) :
    LanguagesRequest.ofArguments (.ofGiven options [] false) = request := by
  have asked (name : String) (value : Option String)
      (given : ∀ text, (name, text) ∈ (request.options isVerbose).map Given.note ↔
        value = some text) : (Arguments.ofGiven options [] false).value? name = value :=
    value?_ofGiven same nodup_options given
  simp only [ofArguments, formatOf, profileOf,
    asked "format" (some request.format.name) (by simp [LanguagesRequest.options]),
    asked "profile" (request.profile.map Profile.name) (by simp [LanguagesRequest.options]),
    asked "config" request.config (by simp [LanguagesRequest.options]),
    ofNames_profile, ofName_format]

end

/-- A command line of an invocation: its options, in any order, and its paths after a separator. -/
inductive Invocation.IsSpelled : Invocation → List String → Prop
  | detect {isVerbose : Bool} {request : DetectRequest} {options : List Given} :
      options.Perm (request.options isVerbose) → "" ∉ request.paths → request.config ≠ some "" →
      IsSpelled ⟨isVerbose, .detect request⟩
        ("detect" :: (options.map Given.spelling ++ "--" :: request.paths))
  | languages {isVerbose : Bool} {request : LanguagesRequest} {options : List Given} :
      options.Perm (request.options isVerbose) → request.config ≠ some "" →
      IsSpelled ⟨isVerbose, .languages request⟩ ("languages" :: options.map Given.spelling)

theorem Invocation.IsSpelled.ofArguments {invocation : Invocation} {line : List String}
    (spelled : invocation.IsSpelled line) : Invocation.ofArguments line = .ok invocation := by
  cases spelled with
  | @detect isVerbose request options same nonempty hasConfig =>
      have suit : ∀ given ∈ options, given.Suits detectGrammar := fun given member =>
        DetectRequest.suits_of_mem_options hasConfig given (same.mem_iff.mp member)
      have distinct : (options.map (·.name)).Nodup :=
        (same.map (·.name)).nodup_iff.mpr DetectRequest.nodup_options
      have verbose : (Arguments.ofGiven options request.paths true).has "verbose" = isVerbose :=
        has_ofGiven same (by simp [DetectRequest.options])
      have read : Arguments.read detectGrammar (options.map Given.spelling ++ "--" :: request.paths) =
          .ok (.ofGiven options request.paths true) := read_commandLine suit distinct rfl nonempty
      change (Arguments.read detectGrammar _).bind _ = _
      rw [read]
      change Except.ok (Invocation.mk
        (false || (Arguments.ofGiven options request.paths true).has "verbose")
        (.detect (DetectRequest.ofArguments (.ofGiven options request.paths true)))) = _
      rw [verbose, DetectRequest.ofArguments_ofGiven same, Bool.false_or]
  | @languages isVerbose request options same hasConfig =>
      have suit : ∀ given ∈ options, given.Suits languagesGrammar := fun given member =>
        LanguagesRequest.suits_of_mem_options hasConfig given (same.mem_iff.mp member)
      have distinct : (options.map (·.name)).Nodup :=
        (same.map (·.name)).nodup_iff.mpr LanguagesRequest.nodup_options
      have verbose : (Arguments.ofGiven options [] false).has "verbose" = isVerbose :=
        has_ofGiven same (by simp [LanguagesRequest.options])
      have read : Arguments.read languagesGrammar (options.map Given.spelling) =
          .ok (.ofGiven options [] false) := read_options suit distinct
      change (Arguments.read languagesGrammar _).bind _ = _
      rw [read]
      change Except.ok (Invocation.mk (false || (Arguments.ofGiven options [] false).has "verbose")
        (.languages (LanguagesRequest.ofArguments (.ofGiven options [] false)))) = _
      rw [verbose, LanguagesRequest.ofArguments_ofGiven same, Bool.false_or]

end LanguageDetection.Command
