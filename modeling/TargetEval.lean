import TargetEval.Comparison
import TargetEval.Expr.Renaming
import TargetEval.Main
import TargetEval.Proofs.ArgumentOrder
import TargetEval.Proofs.DirectGrouping
import TargetEval.Proofs.Leniency
import TargetEval.Proofs.Placeholders
import TargetEval.Proofs.RaisedLimit
import TargetEval.Proofs.Shape
import TargetEval.Series.Combine
import TargetEval.Series.Smoothing
import TargetEval.Series.Summary
import TargetEval.Proofs.Target.Cursor
import TargetEval.Proofs.Timestamps
import TargetEval.Proofs.Target.Characters
import TargetEval.Proofs.Target.Numeral
import TargetEval.Proofs.Target.Leaf
import TargetEval.Proofs.Target.Metric
import TargetEval.Proofs.Target.Reading
import TargetEval.Proofs.Target.Grammar
import TargetEval.Proofs.Target.Display
import TargetEval.Proofs.Target.Patterns
import TargetEval.Proofs.Target.Places
import TargetEval.Proofs.AggregateNames
import TargetEval.Proofs.Rollups
import TargetEval.Proofs.Registrations
import TargetEval.Proofs.Insertions
import TargetEval.Proofs.Accounts
import TargetEval.Proofs.FloatRounding
import TargetEval.Proofs.WeightedSums
import TargetEval.Proofs.MovingMeans
import TargetEval.Proofs.NumericAnswers
import TargetEval.Proofs.BucketContents
import TargetEval.Proofs.Catalogue
import TargetEval.Proofs.SummaryNames
import TargetEval.Proofs.Replacements
import TargetEval.Proofs.Target.Stretches
import TargetEval.Proofs.Target.Renaming
import TargetEval.Proofs.MetricPaths
import TargetEval.Proofs.PatternPaths
import TargetEval.Proofs.Combinations
import TargetEval.Proofs.CombinerOutcomes
import TargetEval.Proofs.SmoothedPoints
import TargetEval.Proofs.Selections
import TargetEval.Proofs.IntervalTexts
import TargetEval.Proofs.FloatValues
import TargetEval.Proofs.FloatResults
import TargetEval.Proofs.FloatPrecision
import TargetEval.Proofs.Interpolation
import TargetEval.Proofs.Percentiles
import TargetEval.Proofs.Extremes
import TargetEval.Proofs.SettingsInEffect
import TargetEval.Proofs.JsonTexts
import TargetEval.Proofs.DescriptorTexts
import TargetEval.Proofs.OptionSpellings
import TargetEval.Proofs.GridLimits
import TargetEval.Proofs.PointAccess
