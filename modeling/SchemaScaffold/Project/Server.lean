import SchemaScaffold.Code.SourceFile
import SchemaScaffold.Project.File
import SchemaScaffold.Target

/-! How a generated project starts: its entry point and its connection to the
datastore. -/

namespace SchemaScaffold.Project

open Code

/-! ## The connection -/

namespace Connection

def address (isTyped : Bool) : String :=
  "process.env.MONGODB_URI" ++ if isTyped then " as string" else ""

def function (isTyped : Bool) : Function :=
  { name := "connectDB"
    docs := ["Exits the process when MONGODB_URI is unreachable"]
    isAsync := true
    body :=
      [.block "try \x7b"
        [.line ("const conn = await mongoose.connect(" ++ address isTyped ++ ");"),
         .line "console.log(`MongoDB connected: $\x7bconn.connection.host\x7d`);"] none,
       .braced
        ("\x7d catch (" ++ annotated "error" (if isTyped then some "any" else none) ++ ") ")
        [.line "console.error(`MongoDB connection failed: $\x7berror.message\x7d`);",
         .line "process.exit(1);"]] }

def sourceFile (isTyped : Bool) : SourceFile :=
  { imports := [{ source := "mongoose", default := some "mongoose" }]
    statements := [.function (function isTyped)] }

end Connection

def connection (language : Language) : ProjectFile :=
  ⟨["src", "config", "db." ++ language.extension],
    (Connection.sourceFile language.isTyped).render, false⟩

/-! ## The entry point -/

namespace EntryPoint

def listening (isTyped : Bool) : List Fragment :=
  [.braced "const server = app.listen(PORT, () => "
    [.line ("console.log(`Server running in $\x7bprocess.env.NODE_ENV\x7d mode on port "
      ++ "$\x7bPORT\x7d`);")] ");",
   .blank,
   .braced
    ("process.on(\"unhandledRejection\", ("
      ++ annotated "err" (if isTyped then some "any" else none) ++ ") => ")
    [.line "console.error(`Unhandled rejection: $\x7berr.message\x7d`);",
     .line "server.close(() => process.exit(1));"] ");"]

/-- The settings are loaded before any other module reads them. -/
def imports : List Import :=
  [{ source := "dotenv/config" },
   { source := "./app.js", default := some "app" },
   { source := "./config/db.js", named := ["connectDB"] }]

def sourceFile (isTyped : Bool) : SourceFile :=
  { imports := imports
    statements :=
      [.constant { name := "PORT", value := "process.env.PORT || 5000" },
       .raw [.line "connectDB();"],
       .raw (listening isTyped)] }

end EntryPoint

def entryPoint (language : Language) : ProjectFile :=
  ⟨["src", "index." ++ language.extension],
    (EntryPoint.sourceFile language.isTyped).render, false⟩

end SchemaScaffold.Project
