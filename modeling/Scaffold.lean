import Scaffold.Main
import Scaffold.Files.Disk
import Scaffold.Yaml.Data
import Scaffold.Proofs.Blueprint.BuiltIn
import Scaffold.Proofs.Blueprint.Fields
import Scaffold.Proofs.Codec.Agreement
import Scaffold.Proofs.Codec.Faults
import Scaffold.Proofs.CommandLine.Substitution
import Scaffold.Proofs.Config.Encode
import Scaffold.Proofs.Generate.Again
import Scaffold.Proofs.Generate.Confined
import Scaffold.Proofs.Generate.Failure
import Scaffold.Proofs.Resolver.Labels
import Scaffold.Proofs.Resolver.Local
import Scaffold.Proofs.Resolver.Plugins
import Scaffold.Proofs.Blueprint.Extend
import Scaffold.Proofs.Codec.Enumeration
import Scaffold.Proofs.TypeTree.Data
import Scaffold.Proofs.Blueprint.Naming
import Scaffold.Proofs.Resolver.Independence
