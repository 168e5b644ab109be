import SchemaScaffold.Project.File
import SchemaScaffold.Target

/-! The files that run a project in containers. -/

namespace SchemaScaffold.Project

/-- Typed sources are built inside the image. -/
def buildLines : Language → List String
  | .typeScript => ["RUN npm run build", ""]
  | .javaScript => []

def imageLines (language : Language) : List String :=
  ["FROM node:18-alpine", "", "WORKDIR /app", "", "COPY package*.json ./", "RUN npm install", "",
   "COPY . ."]
    ++ buildLines language
    ++ ["EXPOSE 5000", "", "CMD [\"npm\", \"start\"]"]

def image (language : Language) : ProjectFile :=
  ⟨["Dockerfile"], textOfLines (imageLines language), false⟩

def composition (database : String) : ProjectFile :=
  ⟨["docker-compose.yml"],
    textOfLines
      ["services:",
       "  api:",
       "    build: .",
       "    ports:",
       "      - \"5000:5000\"",
       "    env_file:",
       "      - .env",
       "    environment:",
       "      - MONGODB_URI=mongodb://mongo:27017/" ++ database,
       "    depends_on:",
       "      - mongo",
       "",
       "  mongo:",
       "    image: mongo:6",
       "    ports:",
       "      - \"27017:27017\"",
       "    volumes:",
       "      - mongo-data:/data/db",
       "",
       "volumes:",
       "  mongo-data:"],
    false⟩

end SchemaScaffold.Project
