import FeedNode.Dict
import FeedNode.Files.Path

/-!
# The environment

The variables that a program is started with, and the folders that they name.
-/

namespace FeedNode.Config

/-- Variables and their texts. -/
abbrev Environment := Dict String String

namespace Environment

/-- The home folder. -/
def home (env : Environment) : String :=
  (env.get? "HOME").getD "/tmp"

/-- The folder of the configuration. -/
def configFolder (env : Environment) : String :=
  Files.join ((env.get? "XDG_CONFIG_HOME").getD (Files.join env.home ".config")) "feeds"

/-- The folder of the data. -/
def dataFolder (env : Environment) : String :=
  Files.join
    ((env.get? "XDG_DATA_HOME").getD (Files.join (Files.join env.home ".local") "share")) "feeds"

/-- The configuration file. -/
def configPath (env : Environment) : String :=
  (env.get? "FEEDS_CONFIG").getD (Files.join env.configFolder "config.toml")

end Environment

end FeedNode.Config
