import ExternalIntelligence.Platform

namespace ExternalIntelligence
set_option autoImplicit true

inductive Classification where
  | «public»
  | privateReusable
  | clientConfidential
  | machineLocal
  | secret
  | externalReference
deriving DecidableEq, Repr

structure PrivacyDecision where
  classification : Classification
  allowPrivateSync : Bool
  reasonCode : String
  matchedRuleId : Option String
deriving DecidableEq, Repr

def maxInspectChars : Nat :=
  2000000

def texts (names : List String) : List (List Char) :=
  names.map Text.chars

def forbiddenFileNames : List String :=
  ["auth", "auth.json", "auth.yaml", "auth.yml", "auth.toml", "credentials", "credentials.json",
    "cookies", "cookies.json", "session.sqlite", "state.sqlite"]

def forbiddenDirectoryNames : List String :=
  ["auth", "authentication", "browser", "browser-state", "cookies", "cookie", "transcript",
    "transcripts", "raw-transcript", "raw_transcript", "sqlite", "spool", "quarantine",
    "local-runtime", ".ei-local"]

def safeRejection (reason : String) (ruleId : Option String) : PrivacyDecision :=
  ⟨.secret, false, reason, ruleId⟩

def slashed (text : List Char) : List Char :=
  text.map fun c => if c = '\\' then '/' else c

def pathParts (P : Platform) (value : List Char) : List (List Char) :=
  ((slashed (P.nfkc value)).splitOn '/').filter fun part => !part.isEmpty && part != ['.']

/-- Whether a path part is machine-local, given the part before it. -/
def forbiddenPart (previous : Option (List Char)) (part : List Char) : Bool :=
  (Text.chars ".env").isPrefixOf part ||
    (texts [".sqlite", ".sqlite3", ".db"]).any (fun ending => ending.isSuffixOf part) ||
    (texts forbiddenFileNames).contains part || (texts forbiddenDirectoryNames).contains part ||
    Text.contains (Text.chars "transcript") part || Text.contains (Text.chars "browser") part ||
    ((texts ["key", "keys"]).contains part &&
      (previous.map fun before => (texts ["spool", "queue", "runtime"]).contains before).getD false)

def anyForbiddenPart : Option (List Char) → List (List Char) → Bool
  | _, [] => false
  | previous, part :: parts => forbiddenPart previous part || anyForbiddenPart (some part) parts

def forbiddenPathReason (P : Platform) (value : List Char) : Option String :=
  if anyForbiddenPart none ((pathParts P value).map P.casefold) then some "MACHINE_LOCAL_PATH"
  else none

/-- What a casefolded source kind stands for; any other kind is private-reusable. -/
def sourceKinds : List (String × Classification) :=
  [("public", .public), ("private", .privateReusable), ("private-reusable", .privateReusable),
    ("private_reusable", .privateReusable), ("client-confidential", .clientConfidential),
    ("client_confidential", .clientConfidential),
    ("client-confidential-generalized", .privateReusable), ("machine-local", .machineLocal),
    ("machine_local", .machineLocal), ("secret", .secret),
    ("external-reference", .externalReference), ("external_reference", .externalReference),
    ("external_article_copy", .externalReference)]

def classifySource (P : Platform) (sourceKind : String) : Classification :=
  let folded := P.casefold (Text.chars sourceKind)
  ((sourceKinds.find? fun kind => Text.chars kind.1 == folded).map Prod.snd).getD .privateReusable

def inspectText (P : Platform) (text : List Char) (sourceKind : String) (sourceRef : List Char) :
    PrivacyDecision :=
  let normalized := P.nfkc text
  if maxInspectChars < normalized.length then
    ⟨.machineLocal, false, "PAYLOAD_TOO_LARGE", some "size_limit"⟩
  else
    match P.secretMatch normalized with
    | some ruleId => safeRejection "SECRET_PATTERN_MATCH" (some ruleId)
    | none =>
      match forbiddenPathReason P sourceRef with
      | some reason => ⟨.machineLocal, false, reason, some "path_policy"⟩
      | none =>
        match classifySource P sourceKind with
        | .secret => safeRejection "SECRET_CLASSIFICATION" (some "source_class")
        | .clientConfidential =>
          ⟨.clientConfidential, false, "CLIENT_CONFIDENTIAL_LOCAL_ONLY", some "classification"⟩
        | .machineLocal =>
          ⟨.machineLocal, false, "MACHINE_LOCAL_SOURCE", some "classification"⟩
        | .public => ⟨.public, true, "CLASSIFIED", some "classification"⟩
        | .privateReusable => ⟨.privateReusable, true, "CLASSIFIED", some "classification"⟩
        | .externalReference => ⟨.externalReference, false, "CLASSIFIED", some "classification"⟩

/-- A control or format character other than a tab and the line ends. -/
def hasControl (P : Platform) (text : List Char) : Bool :=
  text.any fun c => P.isControl c && c != '\t' && c != '\n' && c != '\r'

def inspectPersistedText (P : Platform) (text : List Char) (sourceKind : String)
    (sourceRef : List Char) : PrivacyDecision :=
  let normalized := P.nfkc text
  if hasControl P normalized then safeRejection "UNICODE_CONTROL_FORBIDDEN" (some "unicode_control")
  else inspectText P normalized sourceKind sourceRef

end ExternalIntelligence
