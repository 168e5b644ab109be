import SchemaScaffold.Code.SourceFile
import SchemaScaffold.Project.File
import SchemaScaffold.Target

/-! The tests that a project starts with. -/

namespace SchemaScaffold.Project

open Code

/-! ## The settings of the test runner -/

namespace TestRunner

def settings : Language → List Fragment
  | .typeScript =>
      [.line "preset: \"ts-jest/presets/default-esm\",",
       .line "testEnvironment: \"node\",",
       .line "extensionsToTreatAsEsm: [\".ts\"],",
       .braced "moduleNameMapper: "
        [.line "\"^(\\\\.\x7b1,2\x7d/.*)\\\\.js$\": \"$1\","] ",",
       .braced "transform: " [.line "\"^.+\\\\.ts$\": [\"ts-jest\", \x7b useESM: true \x7d],"] ",",
       .line "testMatch: [\"**/tests/**/*.test.ts\"],"]
  | .javaScript =>
      [.line "testEnvironment: \"node\",",
       .line "transform: \x7b\x7d,",
       .line "testMatch: [\"**/tests/**/*.test.js\"],"]

def sourceFile (language : Language) : SourceFile :=
  { statements := [.raw [.braced "const config = " (settings language) ";"]]
    exports := [{ default := some "config" }] }

end TestRunner

/-- The test runner reads its settings from an untyped file in any project. -/
def testRunner (language : Language) : ProjectFile :=
  ⟨["jest.config.js"], (TestRunner.sourceFile language).render, false⟩

/-! ## Tests -/

def firstTestFile : SourceFile :=
  { imports :=
      [{ source := "supertest", default := some "request" },
       { source := "../../src/app.js", default := some "app" }]
    statements :=
      [.raw
        [.braced "describe(\"app\", () => "
          [.braced "it(\"responds with 404 for unknown routes\", async () => "
            [.line "const res = await request(app).get(\"/api/__missing__\");",
             .line "expect(res.status).toBe(404);"] ");"] ");"]] }

def firstTest (language : Language) : ProjectFile :=
  ⟨["tests", "integration", "app.test." ++ language.extension], firstTestFile.render, false⟩

/-- Keeps a folder in version control that is empty otherwise. -/
def unitTestFolder : ProjectFile := ⟨["tests", "unit", ".gitkeep"], "", false⟩

end SchemaScaffold.Project
