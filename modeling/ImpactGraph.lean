import ImpactGraph.Main
import ImpactGraph.Proofs.CanonicalPath
import ImpactGraph.Proofs.CanonicalTargets
import ImpactGraph.Proofs.Listing
import ImpactGraph.Proofs.TransposedEdges
import ImpactGraph.Proofs.CanonicalFacts
import ImpactGraph.Proofs.BuiltGraph
import ImpactGraph.Proofs.ImpactWalk
import ImpactGraph.Proofs.InputOrder
import ImpactGraph.Proofs.Fates
import ImpactGraph.Proofs.Schedules
import ImpactGraph.Proofs.FailedExtractions
import ImpactGraph.Proofs.Fallback
import ImpactGraph.Proofs.ScannedFiles
import ImpactGraph.Proofs.ImportEdges
import ImpactGraph.Proofs.PrunedDirectories
import ImpactGraph.Proofs.PatternSearch
import ImpactGraph.Proofs.TextBlocks
import ImpactGraph.Proofs.ImportClauses
import ImpactGraph.Proofs.ImportLines
import ImpactGraph.Proofs.ImportScripts
import ImpactGraph.Proofs.PackageScripts
import ImpactGraph.Proofs.NormalLookup
import ImpactGraph.Proofs.RelativeModules
import ImpactGraph.Proofs.ParentPaths
import ImpactGraph.Proofs.Spellings
import ImpactGraph.Proofs.ReviewLists
import ImpactGraph.Proofs.BreadthFirst
import ImpactGraph.Proofs.GrowingChanges
import ImpactGraph.Proofs.ExcludedPaths
import ImpactGraph.Proofs.RelativeNames
import ImpactGraph.Proofs.BuildHistory
import ImpactGraph.Proofs.ScriptTargets
import ImpactGraph.Proofs.ExternalPlaces
import ImpactGraph.Proofs.SelfMembers
import ImpactGraph.Proofs.ClassImports
import ImpactGraph.Proofs.GroupedImports
import ImpactGraph.Proofs.CommentedNames
import ImpactGraph.Proofs.CommentedScripts
import ImpactGraph.Proofs.PatternParts
import ImpactGraph.Proofs.CallSites
import ImpactGraph.Proofs.InnerCalls
import ImpactGraph.Proofs.ExportedNames
import ImpactGraph.Proofs.AnsweredFiles
import ImpactGraph.Proofs.DiagramLines
import ImpactGraph.Proofs.SpecifierLists
import ImpactGraph.Proofs.LoweredText
import ImpactGraph.Proofs.AssignedFields
import ImpactGraph.Proofs.TableKeys
import ImpactGraph.Proofs.CheckedSettings
import ImpactGraph.Proofs.EnvironmentSettings
import ImpactGraph.Proofs.LayeredSettings
import ImpactGraph.Proofs.ExpansionLimits
