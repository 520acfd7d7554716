import ProxyHeaders.Text.Lines

/-!
Who logs what where: loggers below one root, a console that shows what is urgent enough, and a
file that is told everything.
-/
namespace ProxyHeaders.Log

def rootName : String := "bnm_structgen"

def loggerName (name : String) : String :=
  if name == rootName || Text.startsWith name (rootName ++ ".") then name
  else rootName ++ "." ++ name

def debugLevel : Int := 10

structure Setup where
  consoleLevel : Int
  file : Option String
  deriving DecidableEq, Repr, Inhabited

structure Record where
  level : Int
  logger : String
  message : String
  deriving DecidableEq, Repr, Inhabited

def levelNames : List (Int × String) :=
  [(10, "DEBUG"), (20, "INFO"), (30, "WARNING"), (40, "ERROR"), (50, "CRITICAL")]

def levelName (level : Int) : String :=
  (levelNames.lookup level).getD ("Level " ++ toString level)

/-- Records that anyone is told about. -/
def isHeard (record : Record) : Bool := record.level ≥ debugLevel

def shown (setup : Setup) (records : List Record) : List Record :=
  records.filter fun record => isHeard record && record.level ≥ setup.consoleLevel

def fileLine (record : Record) : String :=
  let level := levelName record.level
  level ++ String.ofList (List.replicate (8 - level.length) ' ') ++ " " ++
    loggerName record.logger ++ ": " ++ record.message

/-- The form of the time that a line of the log file starts with; zeros stand for digits. -/
def timeForm : String := "0000-00-00 00:00:00,000"

def startsWithTime (text : String) : Bool :=
  let start := text.toList.take timeForm.length
  start.map (fun c => if c.isDigit then '0' else c) == timeForm.toList

def fileLines (records : List Record) : List String := (records.filter isHeard).map fileLine

end ProxyHeaders.Log
