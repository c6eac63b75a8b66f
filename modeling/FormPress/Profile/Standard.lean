/-
  FormPress.Profile.Standard

  The profile that is used where none is given.
-/
import FormPress.Profile.Basic

namespace FormPress

/-- The organisation of the standard profile. -/
def standardOrganisation : OrganisationProfile where
  name := "Skyline Institute of Technology"
  brandTitle := "SKYLINE"
  brandSubtitle := "INSTITUTE OF TECHNOLOGY"
  addressLines := ["Level 8, 310 King Street", "Melbourne VIC – 3000", "RTO: 45989 CRICOS: 04114B"]
  email := "info@slit.edu.au"
  phone := "+61 3 9125 1661"

/-- The cover of the standard profile. -/
def standardCover : CoverProfile where
  bandTitle := "STUDENT WORKBOOK"
  unitCodePlaceholder := "Unit Code"
  unitTitlePlaceholder := "Unit Title"

/-- The introduction of the standard profile. -/
def standardIntro : IntroProfile where
  title := "Student Pack"
  blocks := [
    {
      heading := "What is the purpose of this document?",
      level := 3,
      paragraphs := [
        "The Student Pack is the document you, the student, needs to complete to demonstrate competency. This document includes the context and conditions of your assessment, the tasks to be completed by you and an outline of the evidence to be gathered."] },
    {
      heading := "The information includes the following:",
      level := 4,
      bullets := [
        "Information related to the unit of competency.",
        "Guidelines and instructions to complete each task and activity.",
        "A student evaluation form"] },
    {
      heading := "Student Evaluation Form",
      level := 4,
      paragraphs := [
        "These documents are designed after conducting thorough industry consultation. Students are encouraged to evaluate this document and provide constructive feedback to their training organisation if they feel that this document can be improved."] },
    {
      heading := "Link to other unit documents",
      level := 4,
      bullets := [
        "The Student Pack is a document for students to complete to demonstrate their competency. This document includes context and conditions of assessment, tasks to be administered to the student, and an outline of the evidence to be gathered from the student.",
        "The Unit Mapping is a document that contains information and comprehensive mapping with the training package requirements."] }]

/-- The rating tables of the standard profile. -/
def standardLikert : LikertProfile where
  scaleLabels := ["Strongly Disagree", "Disagree", "Neutral", "Agree", "Strongly Agree"]
  numberHeader := "No."
  criteriaHeader := "Criteria/Question"

/-- The assessment sections of the standard profile. -/
def standardAssessment : AssessmentProfile where
  evidenceHeader := "Evidence number"
  methodHeader := "Assessment method/ Type of evidence"
  describeHint := "(Please describe here)"

/-- The sections on reasonable adjustment of the standard profile; the first matrix belongs to the
    guidance, the others to the strategies. -/
def standardAdjustment : AdjustmentProfile where
  heading := "Reasonable Adjustment"
  splitMarker := "In the case that"
  appliedLabel := "Was reasonable adjustment applied to any of these assessment tasks?"
  taskLabel := "If yes, which assessment task was this applied to?"
  descriptionLabel := "Provide a description of the adjustment applied and explain reasons."
  signatureLabel := "Trainer Signature:"
  dateLabel := "Date:"
  appendixTitle := "Appendix A – Reasonable Adjustments"
  appendixTaskBar := "Write (task name and number) where reasonable adjustments have been applied:"
  appendixGuidanceBar := "Reasonable Adjustments"
  appendixGuidance := [
    "Students with carer responsibilities, cultural or religious obligations, English as an additional language, disability etc., can request for reasonable adjustments.",
    "Please note, academic standards of the unit/course will not be lowered to accommodate the needs of any student, but there is a requirement to be flexible about the way in which it is delivered or assessed.",
    "The Disability Standards for Education requires institutions to take reasonable steps to enable the student with a disability to participate in education on the same basis as a student without a disability.",
    "The trainer/assessor must complete the section below \"Reasonable Adjustment Strategies Matrix\" to ensure the explanation and correct strategy have been recorded and implemented.",
    "The trainer/assessor must notify the administration/compliance and quality assurance department for any reasonable adjustments made.",
    "All evidence and supplementary documentation must be submitted with the assessment pack to the administration/compliance and quality assurance department."]
  appendixStrategiesBar := "Reasonable Adjustment Strategies Matrix (Trainer/Assessor to complete)"
  appendixExplanationBar := "Explanation of reasonable adjustments strategy used"
  appendixDeclaration := "I declare that I have attached all relevant evidence to provide reasonable adjustment. The training package guidelines and criteria have not been compromised in the process of providing reasonable adjustment to the student. I declare that I have conducted a fair, valid, reliable, and flexible assessment. I have provided explanation of reasonable adjustments strategy used, as required."
  appendixMatrices := [
    {
      columns := [
        "Category",
        "Possible Issue",
        "Reasonable Adjustment Strategy (select as applicable)"],
      rows := [
        [
          ["LLN"],
          ["Speaking", "Reading", "Writing", "Confidence"],
          [
            "Verbal assessment",
            "Presentations",
            "Demonstration of a skill",
            "Use of diagrams",
            "Use of supporting documents such as wordlists"]],
        [
          ["Non-English Speaking Background"],
          ["Speaking", "Reading", "Writing", "Cultural background", "Confidence"],
          [
            "Discuss with the student and Supervisor (if applicable) whether language, literacy and numeracy are likely to impact on the assessment process",
            "Use methods that do not require a higher level of language or literacy than is required to perform the job role",
            "Use short sentences that do not contain large amounts of information",
            "Clarify information by rephrasing, confirm understanding",
            "Read any printed information to the student",
            "Use graphics, pictures and colour coding instead of, or to support, text",
            "Offer to write down, or have someone else write, oral responses given by the student",
            "Ensure that the time available to complete the assessment, while meeting enterprise requirements, takes account of the student's needs"]]] },
    {
      columns := ["Category", "Reasonable Adjustment Strategy (select as applicable)"],
      rows := [
        [
          [
            "Indigenous – Knowledge and understanding",
            "Flexibility",
            "Services",
            "Inappropriate training and assessment"],
          [
            "Culturally appropriate training",
            "Explore understanding of concepts and practical application through oral assessment",
            "Flexible delivery",
            "Using group rather than individual assessments",
            "Assessment through completion of practical tasks in the field after demonstration of skills and knowledge."]],
        [
          ["Age – Educational background", "Limited study skills"],
          [
            "Make sure font size is not too small",
            "Trainer/Assessor should refer to the student's experience",
            "Ensure that the time available to complete the assessment takes account of the student's needs",
            "Provision of information or course materials in an accessible format.",
            "Changes in teaching practices, e.g. wearing an FM microphone to enable a student to hear lectures",
            "Supply of specialised equipment or services, e.g. a note-taker for a student who cannot write",
            "Changes in lecture schedules and arrangements, e.g. relocating classes to an accessible venue",
            "Changes to course design, e.g. substituting an assessment task",
            "Modifications to the physical environment, e.g. installing lever taps, building ramps, installing a lift"]],
        [
          [
            "Educational background – Reading",
            "Writing",
            "Numeracy",
            "Limited study skills and/or learning strategies"],
          [
            "Discuss with the Student previous learning experience",
            "Ensure learning and assessment methods meet the student's individual need"]],
        [
          [
            "Disability – Speaking",
            "Reading",
            "Writing",
            "Numeracy",
            "Limited study skills and/or learning strategies"],
          [
            "Identify the issues",
            "Create a climate of support",
            "Ensure access to support that the student has agreed to",
            "Appropriately structure the assessment",
            "Provide information or course materials in an accessible format, e.g. a textbook in braille",
            "Changes in teaching practices, e.g. wearing an FM microphone to enable a student to hear lectures",
            "Supply of specialised equipment or services, e.g. a note-taker for a student who cannot write",
            "Changes in lecture schedules and arrangements, e.g. relocating classes to an accessible venue",
            "Changes to course design, e.g. substituting an assessment task",
            "Modifications to the physical environment, e.g. installing lever taps, building ramps, installing a lift"]]] }]

/-- The learner evaluation of the standard profile. -/
def standardEvaluation : EvaluationProfile where
  stepTitle := "Learner Evaluation"
  participantSectionTitle := "Participant Information"
  title := "Appendix B - Learner Evaluation Form"
  intro := "Please complete this evaluation form as thoroughly as you can, in order for us to continuously improve our training quality. The purpose of the evaluation form is to evaluate the areas below:"
  bullets := ["logistics and support", "facilitation", "training material", "assessment"]
  closing := "Your honest and detailed input is therefore of great value to us, and we appreciate your assistance in completing this evaluation form!"

/-- The declarations of the standard profile. -/
def standardDeclaration : DeclarationProfile where
  officeSpanner := "Other"
  studentNameLabel := "Student Name"
  trainerNameLabel := "Trainer/Assessor Name"
  dateLabel := "Date"

/-- The standard profile. -/
def Profile.standard : Profile where
  schemaVersion := "1.0"
  organisation := standardOrganisation
  cover := standardCover
  intro := standardIntro
  groupTitles := [
    ("student", "Student details"),
    ("trainer", "Trainer details"),
    ("qualification", "Qualification/Course/Program Details"),
    ("unit", "Unit of competency"),
    ("office", "Office Use Only")]
  fallbackGroupTitle := "Other"
  likert := standardLikert
  assessment := standardAssessment
  adjustment := standardAdjustment
  evaluation := standardEvaluation
  declarations := standardDeclaration

end FormPress
