import SchemaScaffold.Code.SourceFile
import SchemaScaffold.Project.File
import SchemaScaffold.Target

/-! The functions that every request passes: the gate for known users and the
handler of errors. -/

namespace SchemaScaffold.Project

open Code

def expressImport (isTyped : Bool) : List Import :=
  if isTyped then [{ source := "express", named := ["NextFunction", "Request", "Response"] }]
  else []

def parameter (isTyped : Bool) (name type : String) : Parameter :=
  ⟨name, if isTyped then some type else none⟩

def requestParameters (isTyped : Bool) : List Parameter :=
  [parameter isTyped "req" "Request", parameter isTyped "res" "Response",
   parameter isTyped "next" "NextFunction"]

/-! ## The gate -/

namespace Gate

def unauthorizedMessage : String := "Not authorized to access this route"

def reject : Fragment := .line "return res.status(401).json(unauthorized);"

def verify (isTyped : Bool) : Fragment :=
  if isTyped then
    .line ("const decoded = jwt.verify(header.slice(7), process.env.JWT_SECRET as string)"
      ++ " as jwt.JwtPayload;")
  else
    .line "const decoded = jwt.verify(header.slice(7), process.env.JWT_SECRET);"

def attach (isTyped : Bool) : Fragment :=
  if isTyped then .line "(req as any).user = \x7b id: decoded.id \x7d;"
  else .line "req.user = \x7b id: decoded.id \x7d;"

/-- A request passes only with a token that carries an id. -/
def body (isTyped : Bool) : List Fragment :=
  [.line "const header = req.headers.authorization;",
   .braced "if (!header || !header.startsWith(\"Bearer \")) " [reject],
   .blank,
   .block "try \x7b"
    [verify isTyped, .braced "if (!decoded.id) " [reject], attach isTyped, .line "next();"] none,
   .braced "\x7d catch (error) " [reject]]

def function (isTyped : Bool) : Function :=
  { name := "protect"
    docs := ["Requires `Authorization: Bearer <token>` with an `id` claim"]
    parameters := requestParameters isTyped
    body := body isTyped }

def sourceFile (isTyped : Bool) : SourceFile :=
  { imports := expressImport isTyped ++ [{ source := "jsonwebtoken", default := some "jwt" }]
    statements :=
      [.constant
        { name := "unauthorized"
          value := "\x7b success: false, error: \"" ++ unauthorizedMessage ++ "\" \x7d" },
       .function (function isTyped)] }

end Gate

def gate (language : Language) : ProjectFile :=
  ⟨["src", "middleware", "auth." ++ language.extension],
    (Gate.sourceFile language.isTyped).render, false⟩

/-! ## The handler of errors -/

namespace ErrorHandler

def function (isTyped : Bool) : Function :=
  { name := "errorHandler"
    docs := ["Express only treats four-argument middleware as an error handler"]
    parameters := parameter isTyped "err" "any" :: requestParameters isTyped
    body :=
      [.line "console.error(err.stack);",
       .line ("res.status(err.statusCode || 500).json(\x7b success: false, "
        ++ "error: err.message || \"Server Error\" \x7d);")] }

def sourceFile (isTyped : Bool) : SourceFile :=
  { imports := expressImport isTyped, statements := [.function (function isTyped)] }

end ErrorHandler

def errorHandler (language : Language) : ProjectFile :=
  ⟨["src", "middleware", "error." ++ language.extension],
    (ErrorHandler.sourceFile language.isTyped).render, false⟩

end SchemaScaffold.Project
