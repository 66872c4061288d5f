import NarrativePlayer.Document.Record
import NarrativePlayer.Journal
import NarrativePlayer.Review.Settings

/-!
Contract: settings read from documents, those of the journal, of a session and of a review.
-/

namespace NarrativePlayer.Document

variable {Source : Type}

def journalLevels : List (String × Journal.Level) :=
  [("Trace", .trace), ("Debug", .debug), ("Info", .info), ("Warn", .warn), ("Error", .error)]

def journalCategories : List (String × Journal.Category) :=
  [("Engine", .engine), ("Flow", .flow), ("Variables", .assignments), ("Timing", .timing)]

def readJournalSettings (medium : Medium Source) (source : Source) :
    Except Fault Journal.Settings :=
  let fields : List (Field Source) :=
    [.required "enabled" (readFlag medium),
      .required "level" (readName medium journalLevels),
      .required "categories" (readList medium (readName medium journalCategories))]
  (readRecord medium "struct DebugConfig" fields source).map
    fun (enabled, level, categories, ()) => ⟨enabled, level, categories⟩

/-- Reads the settings of a session, which are those of its journal. -/
def readSessionSettings (medium : Medium Source) (source : Source) :
    Except Fault Journal.Settings :=
  let fields : List (Field Source) :=
    [.defaulted "debug" (readJournalSettings medium) .silent]
  (readRecord medium "struct InterpreterConfig" fields source).map fun (journal, ()) => journal

def readReferenceChecks (medium : Medium Source) (source : Source) :
    Except Fault Review.ReferenceChecks :=
  let fields : List (Field Source) :=
    [.required "enabled" (readFlag medium), .required "check_duplicates" (readFlag medium)]
  (readRecord medium "struct ReferencesConfig" fields source).map
    fun (enabled, duplicates, ()) => ⟨enabled, duplicates⟩

def readFlowChecks (medium : Medium Source) (source : Source) : Except Fault Review.FlowChecks :=
  let fields : List (Field Source) :=
    [.required "enabled" (readFlag medium), .required "check_reachability" (readFlag medium),
      .required "check_dead_ends" (readFlag medium)]
  (readRecord medium "struct FlowConfig" fields source).map
    fun (enabled, reachability, deadEnds, ()) => ⟨enabled, reachability, deadEnds⟩

def readQualityChecks (medium : Medium Source) (source : Source) :
    Except Fault Review.QualityChecks :=
  let fields : List (Field Source) :=
    [.required "enabled" (readFlag medium), .required "check_unset_variables" (readFlag medium),
      .required "max_line_length" (readCount medium "usize")]
  (readRecord medium "struct QualityConfig" fields source).map
    fun (enabled, unsetVariables, maxLineLength, ()) => ⟨enabled, unsetVariables, maxLineLength⟩

def readReviewSettings (medium : Medium Source) (source : Source) :
    Except Fault Review.Settings :=
  let fields : List (Field Source) :=
    [.required "references" (readReferenceChecks medium), .required "flow" (readFlowChecks medium),
      .required "quality" (readQualityChecks medium)]
  (readRecord medium "struct LintConfig" fields source).map
    fun (references, flow, quality, ()) => ⟨references, flow, quality⟩

end NarrativePlayer.Document
