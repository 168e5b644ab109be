import SchemaScaffold.Config
import SchemaScaffold.Project.File

/-! The settings of a project: its environment, what version control leaves
out, and how typed sources are compiled. -/

namespace SchemaScaffold.Project

/-! ## The environment -/

def secretVariables (secret : String) : List (String × String) :=
  [("JWT_SECRET", secret), ("JWT_EXPIRES_IN", "30d")]

def environmentVariables (config : Config) (secret : String) : List (String × String) :=
  [("PORT", "5000"), ("NODE_ENV", "development"),
   ("MONGODB_URI", "mongodb://localhost:27017/" ++ config.projectName)]
    ++ if config.has .auth then secretVariables secret else []

def environmentText (settings : List (String × String)) : String :=
  textOfLines (settings.map fun (name, value) => name ++ "=" ++ value)

/-- The environment is the user's once it exists. -/
def environment (config : Config) : ProjectFile :=
  ⟨[".env"], environmentText (environmentVariables config "change-this-secret"), true⟩

/-- The example is meant to be shared. -/
def environmentExample (config : Config) : ProjectFile :=
  ⟨[".env.example"], environmentText (environmentVariables config "your-jwt-secret"), true⟩

/-! ## Version control -/

def ignoredPatterns (config : Config) : List String :=
  ["node_modules/", ".env", "*.log", "npm-debug.log*", ".DS_Store"]
    ++ (if config.isTyped then ["dist/"] else [])
    ++ (if config.has .tests then ["coverage/"] else [])

def ignoreList (config : Config) : ProjectFile :=
  ⟨[".gitignore"], textOfLines (ignoredPatterns config), false⟩

/-! ## The compiler -/

def compilerSettings : ProjectFile :=
  ⟨["tsconfig.json"],
    textOfLines
      ["\x7b",
       "  \"compilerOptions\": \x7b",
       "    \"target\": \"ES2022\",",
       "    \"module\": \"NodeNext\",",
       "    \"moduleResolution\": \"NodeNext\",",
       "    \"outDir\": \"dist\",",
       "    \"rootDir\": \"src\",",
       "    \"strict\": true,",
       "    \"esModuleInterop\": true,",
       "    \"skipLibCheck\": true,",
       "    \"forceConsistentCasingInFileNames\": true,",
       "    \"resolveJsonModule\": true",
       "  \x7d,",
       "  \"include\": [\"src/**/*.ts\"],",
       "  \"exclude\": [\"node_modules\", \"dist\", \"tests\"]",
       "\x7d"],
    false⟩

end SchemaScaffold.Project
